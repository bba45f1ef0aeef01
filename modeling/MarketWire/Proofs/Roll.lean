import MarketWire.Proofs.Acknowledgement
import Mathlib.Data.List.Nodup

namespace MarketWire

open Channel (Subscription)

structure Roll where
  entries : List (Subscription × Bool)
  distinct : (entries.map Prod.fst).Nodup

namespace Roll

def names (l : Roll) : List Subscription := l.entries.map Prod.fst

def blank : Roll := ⟨[], List.nodup_nil⟩

theorem distinct_append {l : Roll} {x : Subscription} (new : x ∉ l.names) :
    ((l.entries ++ [(x, false)]).map Prod.fst).Nodup := by
  rw [List.map_append, List.map_singleton]
  exact l.distinct.append (List.nodup_singleton x) (List.disjoint_singleton.mpr new)

theorem distinct_filter (l : Roll) (p : Subscription × Bool → Bool) :
    ((l.entries.filter p).map Prod.fst).Nodup :=
  l.distinct.sublist (List.filter_sublist.map Prod.fst)

theorem map_marked (es : List (Subscription × Bool)) (mark : Subscription × Bool → Bool) :
    (es.map fun e => (e.1, mark e)).map Prod.fst = es.map Prod.fst := by
  rw [List.map_map]
  rfl

def add (l : Roll) (x : Subscription) : Roll :=
  if new : x ∉ l.names then ⟨l.entries ++ [(x, false)], distinct_append new⟩ else l

def remove (l : Roll) (x : Subscription) : Roll :=
  ⟨l.entries.filter (·.1 != x), l.distinct_filter _⟩

def marked (l : Roll) (mark : Subscription × Bool → Bool) : Roll :=
  ⟨l.entries.map fun e => (e.1, mark e), map_marked l.entries mark ▸ l.distinct⟩

def confirm (l : Roll) (x : Subscription) : Roll := l.marked fun e => e.1 == x || e.2

def resetConfirmations (l : Roll) : Roll := l.marked fun _ => false

@[simp] theorem entries_remove (l : Roll) (x : Subscription) :
    (l.remove x).entries = l.entries.filter (·.1 != x) := rfl

@[simp] theorem entries_marked (l : Roll) (mark : Subscription × Bool → Bool) :
    (l.marked mark).entries = l.entries.map fun e => (e.1, mark e) := rfl

end Roll

namespace Registry

inductive Request where
  | add (x : Subscription)
  | remove (x : Subscription)
  | contains (x : Subscription)
  | confirm (x : Subscription)
  | isConfirmed (x : Subscription)
  | resetConfirmations
  | clear
  | all
  | count
  | isEmpty
  deriving DecidableEq

inductive Answer where
  | done
  | told (b : Bool)
  | listed (xs : List Subscription)
  | counted (n : Nat)
  deriving DecidableEq

def serve (r : Registry) : Request → Answer × Registry
  | .add x => (.told (r.add x).2, (r.add x).1)
  | .remove x => (.told (r.remove x).2, (r.remove x).1)
  | .contains x => (.told (r.contains x), r)
  | .confirm x => (.told (r.confirm x).2, (r.confirm x).1)
  | .isConfirmed x => (.told (r.isConfirmed x), r)
  | .resetConfirmations => (.done, r.resetConfirmations)
  | .clear => (.done, r.clear)
  | .all => (.listed r.all, r)
  | .count => (.counted r.count, r)
  | .isEmpty => (.told r.isEmpty, r)

end Registry

def Roll.serve (l : Roll) : Registry.Request → Registry.Answer × Roll
  | .add x => (.told (x ∉ l.names), l.add x)
  | .remove x => (.told (x ∈ l.names), l.remove x)
  | .contains x => (.told (x ∈ l.names), l)
  | .confirm x => (.told (x ∈ l.names), l.confirm x)
  | .isConfirmed x => (.told ((x, true) ∈ l.entries), l)
  | .resetConfirmations => (.done, l.resetConfirmations)
  | .clear => (.done, .blank)
  | .all => (.listed l.names, l)
  | .count => (.counted l.entries.length, l)
  | .isEmpty => (.told l.entries.isEmpty, l)

def Roll.answers (l : Roll) : List Registry.Request → List Registry.Answer × Roll
  | [] => ([], l)
  | request :: requests =>
      let (answers, last) := (l.serve request).2.answers requests
      ((l.serve request).1 :: answers, last)

namespace Registry

variable {r r' t : Registry} {l : Roll} {x : Subscription}

abbrev Earlier (d e : Subscription × Entry) : Prop := d.2.arrival < e.2.arrival

def shown (e : Subscription × Entry) : Subscription × Bool := (e.1, e.2.confirmed)

structure Represents (r : Registry) (l : Roll) : Prop where
  order : r.toList = l.entries
  numbered : (r.entries.map fun e => e.2.arrival).Nodup
  below : ∀ e ∈ r.entries, e.2.arrival < r.nextArrival

structure Reordered (r r' : Registry) : Prop where
  perm : r.entries.Perm r'.entries
  next : r'.nextArrival = r.nextArrival

theorem place_rising {e : Subscription × Entry} :
    ∀ {es : List (Subscription × Entry)}, es.Pairwise Earlier →
      (∀ d ∈ es, d.2.arrival ≠ e.2.arrival) → (place e es).Pairwise Earlier := by
  intro es
  induction es with
  | nil => exact fun _ _ => List.pairwise_singleton _ _
  | cons d ds ih =>
      intro rising other
      obtain ⟨first, rest⟩ := List.pairwise_cons.mp rising
      rw [place]
      split
      · next earlier =>
          refine List.pairwise_cons.mpr ⟨fun c hc => ?_, rising⟩
          rcases List.mem_cons.mp hc with rfl | hc
          · exact earlier
          · exact Nat.lt_trans earlier (first c hc)
      · next later =>
          have before : Earlier d e :=
            Nat.lt_of_le_of_ne (Nat.not_lt.mp later) (other d List.mem_cons_self)
          refine List.pairwise_cons.mpr ⟨fun c hc => ?_, ih rest fun c hc =>
            other c (List.mem_cons_of_mem _ hc)⟩
          rcases List.mem_cons.mp ((place_perm e ds).mem_iff.mp hc) with rfl | hc
          · exact before
          · exact first c hc

theorem foldl_place_rising (es : List (Subscription × Entry)) :
    ∀ acc, ((es ++ acc).map fun e => e.2.arrival).Nodup → acc.Pairwise Earlier →
      (es.foldl (fun sorted e => place e sorted) acc).Pairwise Earlier := by
  induction es with
  | nil => exact fun _ _ rising => rising
  | cons e es ih =>
      intro acc numbered rising
      have moved : (es ++ place e acc).Perm (e :: es ++ acc) :=
        ((place_perm e acc).append_left es).trans List.perm_middle
      refine ih (place e acc) ((moved.map _).nodup_iff.mpr numbered) (place_rising rising ?_)
      intro d hd same
      rw [List.cons_append, List.map_cons, List.nodup_cons] at numbered
      exact numbered.1 (same ▸ List.mem_map_of_mem (List.mem_append_right es hd))

theorem byArrival_rising {es : List (Subscription × Entry)}
    (numbered : (es.map fun e => e.2.arrival).Nodup) : (byArrival es).Pairwise Earlier :=
  foldl_place_rising es [] (by rwa [List.append_nil]) List.Pairwise.nil

theorem Rising.numbered {es : List (Subscription × Entry)} (rising : es.Pairwise Earlier) :
    (es.map fun e => e.2.arrival).Nodup :=
  List.pairwise_map.mpr (rising.imp Nat.ne_of_lt)

theorem byArrival_eq {es ds : List (Subscription × Entry)} (perm : es.Perm ds)
    (rising : es.Pairwise Earlier) : byArrival ds = es := by
  have numbered : (ds.map fun e => e.2.arrival).Nodup :=
    (perm.map _).nodup_iff.mp (Rising.numbered rising)
  refine ((byArrival_perm ds).trans perm.symm).eq_of_pairwise (fun d e _ _ hd he => ?_)
    (byArrival_rising numbered) rising
  exact absurd hd (Nat.lt_asymm he)

theorem Represents.of_rising (es : List (Subscription × Entry)) (perm : es.Perm r.entries)
    (rising : es.Pairwise Earlier) (order : es.map shown = l.entries)
    (below : ∀ e ∈ es, e.2.arrival < r.nextArrival) : r.Represents l where
  order := (congrArg (List.map shown) (byArrival_eq perm rising)).trans order
  numbered := (perm.map _).nodup_iff.mp (Rising.numbered rising)
  below e he := below e (perm.mem_iff.mpr he)

theorem Represents.exists_rising (h : r.Represents l) :
    ∃ es : List (Subscription × Entry), es.Perm r.entries ∧ es.Pairwise Earlier ∧
      es.map shown = l.entries ∧ ∀ e ∈ es, e.2.arrival < r.nextArrival :=
  ⟨byArrival r.entries, byArrival_perm _, byArrival_rising h.numbered, h.order,
    fun e he => h.below e ((byArrival_perm _).mem_iff.mp he)⟩

theorem Represents.reordered (h : r.Represents l) (other : r.Reordered r') :
    r'.Represents l := by
  obtain ⟨es, perm, rising, order, below⟩ := h.exists_rising
  exact .of_rising es (perm.trans other.perm) rising order (other.next ▸ below)

theorem Represents.all_eq (h : r.Represents l) : r.all = l.names := by
  rw [Roll.names, ← h.order, toList, List.map_map]
  rfl

theorem Represents.contains_iff (h : r.Represents l) : r.contains x = true ↔ x ∈ l.names := by
  rw [← mem_all, h.all_eq]

theorem Represents.contains_eq (h : r.Represents l) : r.contains x = decide (x ∈ l.names) := by
  rw [Bool.eq_iff_iff, decide_eq_true_iff, h.contains_iff]

theorem Represents.count_eq (h : r.Represents l) : r.count = l.entries.length := by
  rw [count_eq_length, h.all_eq, Roll.names, List.length_map]

theorem Represents.isEmpty_eq (h : r.Represents l) : r.isEmpty = l.entries.isEmpty := by
  rw [Bool.eq_iff_iff, isEmpty, List.isEmpty_iff_length_eq_zero, List.isEmpty_iff_length_eq_zero,
    ← h.count_eq, count]

theorem Represents.isConfirmed_iff (h : r.Represents l) :
    r.isConfirmed x = true ↔ (x, true) ∈ l.entries := by
  have distinct : Members.Distinct r.entries := by
    refine all_perm_keys.nodup_iff.mp ?_
    rw [h.all_eq]
    exact l.distinct
  rw [Registry.isConfirmed_iff, ← h.order, toList, List.mem_map]
  simp only [find?, distinct.lookup_eq_some, (byArrival_perm r.entries).mem_iff]
  constructor
  · rintro ⟨e, he, confirmed⟩
    exact ⟨(x, e), he, by rw [confirmed]⟩
  · rintro ⟨⟨y, e⟩, he, same⟩
    obtain ⟨rfl, confirmed⟩ := Prod.mk.inj same
    exact ⟨e, he, confirmed⟩

theorem Represents.isConfirmed_eq (h : r.Represents l) :
    r.isConfirmed x = decide ((x, true) ∈ l.entries) := by
  rw [Bool.eq_iff_iff, decide_eq_true_iff, h.isConfirmed_iff]

theorem Represents.add (h : r.Represents l) : (r.add x).1.Represents (l.add x) := by
  by_cases held : x ∈ l.names
  · have same : (r.add x).1 = r := by simp [Registry.add, h.contains_iff.mpr held]
    rw [same, Roll.add, dif_neg (not_not.mpr held)]
    exact h
  · have absent : r.contains x = false := by rw [h.contains_eq, decide_eq_false held]
    obtain ⟨es, perm, rising, order, below⟩ := h.exists_rising
    rw [Roll.add, dif_pos held]
    simp only [Registry.add, absent, Bool.false_eq_true, if_false]
    refine .of_rising (es ++ [(x, ⟨r.nextArrival, false⟩)]) ?_ ?_ ?_ ?_
    · exact List.perm_append_comm.trans (perm.cons _)
    · refine List.pairwise_append.mpr ⟨rising, List.pairwise_singleton _ _, ?_⟩
      rintro e he d (_ | ⟨_, ⟨⟩⟩)
      exact below e he
    · rw [List.map_append, order]
      rfl
    · intro e he
      rcases List.mem_append.mp he with he | he
      · exact Nat.lt_succ_of_lt (below e he)
      · rw [List.mem_singleton.mp he]
        exact Nat.lt_succ_self _

theorem Represents.added_eq (h : r.Represents l) : (r.add x).2 = decide (x ∉ l.names) := by
  rw [decide_not, ← h.contains_eq, Registry.add]
  cases r.contains x <;> rfl

theorem Represents.remove (h : r.Represents l) : (r.remove x).1.Represents (l.remove x) := by
  obtain ⟨es, perm, rising, order, below⟩ := h.exists_rising
  refine .of_rising (es.filter (·.1 != x)) (perm.filter _) (rising.filter _) ?_ ?_
  · rw [Roll.entries_remove, ← order, List.filter_map]
    rfl
  · exact fun e he => below e (List.mem_filter.mp he).1

theorem Represents.marked (h : r.Represents l) {f : Subscription × Entry → Subscription × Entry}
    {mark : Subscription × Bool → Bool} (arrival : ∀ e, (f e).2.arrival = e.2.arrival)
    (marks : ∀ e, shown (f e) = (e.1, mark (shown e))) :
    Represents { r with entries := r.entries.map f } (l.marked mark) := by
  obtain ⟨es, perm, rising, order, below⟩ := h.exists_rising
  refine .of_rising (es.map f) (perm.map f) ?_ ?_ ?_
  · simpa only [List.pairwise_map, Earlier, arrival] using rising
  · rw [Roll.entries_marked, ← order, List.map_map, List.map_map]
    exact List.map_congr_left fun e _ => marks e
  · intro e he
    obtain ⟨d, hd, rfl⟩ := List.mem_map.mp he
    rw [arrival]
    exact below d hd

theorem Represents.confirm (h : r.Represents l) : (r.confirm x).1.Represents (l.confirm x) := by
  refine h.marked ?_ ?_
  · intro e
    split <;> rfl
  · intro e
    by_cases hx : e.1 = x <;> simp [shown, hx]

theorem Represents.resetConfirmations (h : r.Represents l) :
    r.resetConfirmations.Represents l.resetConfirmations :=
  h.marked (fun _ => rfl) fun _ => rfl

theorem represents_clear (r : Registry) : r.clear.Represents .blank :=
  ⟨rfl, List.nodup_nil, fun _ he => absurd he List.not_mem_nil⟩

theorem represents_blank : empty.Represents .blank := represents_clear empty

theorem Represents.serve (h : r.Represents l) (request : Request) :
    (r.serve request).1 = (l.serve request).1 ∧
      (r.serve request).2.Represents (l.serve request).2 := by
  cases request with
  | add x => exact ⟨congrArg Answer.told h.added_eq, h.add⟩
  | remove x => exact ⟨congrArg Answer.told h.contains_eq, h.remove⟩
  | contains x => exact ⟨congrArg Answer.told h.contains_eq, h⟩
  | confirm x => exact ⟨congrArg Answer.told h.contains_eq, h.confirm⟩
  | isConfirmed x => exact ⟨congrArg Answer.told h.isConfirmed_eq, h⟩
  | resetConfirmations => exact ⟨rfl, h.resetConfirmations⟩
  | clear => exact ⟨rfl, represents_clear r⟩
  | all => exact ⟨congrArg Answer.listed h.all_eq, h⟩
  | count => exact ⟨congrArg Answer.counted h.count_eq, h⟩
  | isEmpty => exact ⟨congrArg Answer.told h.isEmpty_eq, h⟩

inductive Serves : Registry → List (Request × Answer) → Registry → Prop where
  | nil (r : Registry) : Serves r [] r
  | cons {r r' t : Registry} {request : Request} {h : List (Request × Answer)} :
      r.Reordered r' → Serves (r'.serve request).2 h t →
      Serves r ((request, (r'.serve request).1) :: h) t

def isAddition : Request × Answer → Bool
  | (.add _, .told b) => b
  | _ => false

theorem nextArrival_serve (r : Registry) (request : Request) :
    (r.serve request).2.nextArrival
      = r.nextArrival + [(request, (r.serve request).1)].countP isAddition := by
  cases request with
  | add x =>
      simp only [serve, add]
      split <;> rfl
  | _ => rfl

variable {h : List (Request × Answer)}

theorem Serves.nextArrival (session : Serves r h t) :
    t.nextArrival = r.nextArrival + h.countP isAddition := by
  induction session with
  | nil r => rfl
  | @cons r r' t request h other _ ih =>
      rw [ih, nextArrival_serve, other.next, Nat.add_assoc, ← List.countP_append]
      rfl

theorem Serves.answers (session : Serves r h t) (represents : r.Represents l) :
    h.map Prod.snd = (l.answers (h.map Prod.fst)).1 ∧
      t.Represents (l.answers (h.map Prod.fst)).2 := by
  induction session generalizing l with
  | nil r => exact ⟨rfl, represents⟩
  | cons other _ ih =>
      obtain ⟨same, next⟩ := (represents.reordered other).serve _
      obtain ⟨later, last⟩ := ih next
      simp only [List.map_cons, Roll.answers]
      exact ⟨List.cons_eq_cons.mpr ⟨same, later⟩, last⟩

def session (turn : Registry → Registry) (r : Registry) :
    List Request → List (Request × Answer) × Registry
  | [] => ([], r)
  | request :: requests =>
      let (h, t) := ((turn r).serve request).2.session turn requests
      ((request, ((turn r).serve request).1) :: h, t)

theorem session_requests (turn : Registry → Registry) (r : Registry) (requests : List Request) :
    (r.session turn requests).1.map Prod.fst = requests := by
  induction requests generalizing r with
  | nil => rfl
  | cons request requests ih => exact congrArg (request :: ·) (ih _)

theorem serves_session {turn : Registry → Registry} (turns : ∀ r, Reordered r (turn r))
    (r : Registry) (requests : List Request) :
    Serves r (r.session turn requests).1 (r.session turn requests).2 := by
  induction requests generalizing r with
  | nil => exact .nil r
  | cons request requests ih => exact .cons (turns r) (ih _)

theorem serves_ordered :
    (∀ {turn : Registry → Registry}, (∀ r, Reordered r (turn r)) → ∀ requests,
        (empty.session turn requests).1.map Prod.fst = requests ∧
          Serves empty (empty.session turn requests).1 (empty.session turn requests).2) ∧
      ∀ {h t}, Serves empty h t →
        h.map Prod.snd = (Roll.blank.answers (h.map Prod.fst)).1 ∧
          t.Represents (Roll.blank.answers (h.map Prod.fst)).2 ∧
          t.nextArrival = h.countP isAddition := by
  refine ⟨fun turns requests => ⟨session_requests _ _ _, serves_session turns _ _⟩,
    fun session => ?_⟩
  obtain ⟨same, represents⟩ := session.answers represents_blank
  exact ⟨same, represents, session.nextArrival.trans (Nat.zero_add _)⟩

def backward (r : Registry) : Registry := { r with entries := r.entries.reverse }

def returning : List Request :=
  [.add (.tickers "C"), .add (.trades "A"), .confirm (.tickers "C"), .add (.tickers "B"),
    .isConfirmed (.tickers "C"), .remove (.tickers "C"), .add (.tickers "C"), .all,
    .isConfirmed (.tickers "C")]

theorem returning_ordered :
    (∀ r : Registry, r.Reordered r.backward) ∧
      Serves empty (empty.session backward returning).1 (empty.session backward returning).2 ∧
      (Roll.blank.answers returning).1
        = [.told true, .told true, .told true, .told true, .told true, .told true, .told true,
          .listed [.trades "A", .tickers "B", .tickers "C"], .told false] ∧
      (empty.session backward returning).2.nextArrival = 4 := by
  have turns : ∀ r : Registry, r.Reordered r.backward :=
    fun r => ⟨(List.reverse_perm _).symm, rfl⟩
  obtain ⟨asked, session⟩ := serves_ordered.1 turns returning
  obtain ⟨same, _, count⟩ := serves_ordered.2 session
  rw [asked] at same
  refine ⟨turns, session, ?_, ?_⟩
  · rw [← same]
    decide +kernel
  · rw [count]
    decide +kernel

end Registry

end MarketWire
