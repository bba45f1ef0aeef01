import MarketWire.Proofs.Session.Ledger
import Mathlib.Data.List.Basic
import Mathlib.Data.List.Induction

namespace MarketWire.Stream

open Channel (Subscription)

def Frame.subscribeTo (x : Subscription) : Frame := .request (.subscribe [x])

def Frame.unsubscribeFrom (x : Subscription) : Frame := .request (.unsubscribe [x])

def Frame.about (x : Subscription) : Frame → Option Bool
  | .request (.subscribe xs) => if x ∈ xs then some true else none
  | .request (.unsubscribe xs) => if x ∈ xs then some false else none
  | _ => none

def texts (fs : List Frame) : List Frame := fs.filter fun f => f.text?.isSome

def lastAbout (fs : List Frame) (x : Subscription) : Option Bool :=
  (fs.filterMap (Frame.about x)).getLast?

def Serves (fs : List Frame) (x : Subscription) : Prop := lastAbout fs x = some true

def Separated (fs : List Frame) : Prop :=
  ∀ x before f between g after, fs = before ++ f :: (between ++ g :: after) →
    f.about x = some true → g.about x = some true → ∃ u ∈ between, u.about x = some false

variable {fs : List Frame} {f : Frame} {x y : Subscription} {carried : List Subscription}

theorem about_subscribeTo : (Frame.subscribeTo y).about x = if x = y then some true else none := by
  simp [Frame.subscribeTo, Frame.about]

theorem about_unsubscribeFrom :
    (Frame.unsubscribeFrom y).about x = if x = y then some false else none := by
  simp [Frame.unsubscribeFrom, Frame.about]

theorem lastAbout_append (fs : List Frame) (f : Frame) (x : Subscription) :
    lastAbout (fs ++ [f]) x = (f.about x).or (lastAbout fs x) := by
  simp only [lastAbout, List.filterMap_append, List.getLast?_append]
  cases h : f.about x with
  | none => simp [h]
  | some b => simp [h]

theorem texts_append (fs gs : List Frame) : texts (fs ++ gs) = texts fs ++ texts gs :=
  List.filter_append ..

theorem exists_given_up {before between : List Frame}
    (hl : lastAbout (before ++ f :: between) x ≠ some true) (hf : f.about x = some true) :
    ∃ u ∈ between, u.about x = some false := by
  induction between using List.reverseRecOn with
  | nil =>
      rw [lastAbout_append, hf] at hl
      exact absurd rfl hl
  | append_singleton between u ih =>
      rw [← List.cons_append, ← List.append_assoc, lastAbout_append] at hl
      cases hu : u.about x with
      | none =>
          rw [hu, Option.none_or] at hl
          obtain ⟨v, hv, hv'⟩ := ih hl
          exact ⟨v, List.mem_append_left _ hv, hv'⟩
      | some b =>
          cases b with
          | true =>
              rw [hu] at hl
              exact absurd rfl hl
          | false => exact ⟨u, by simp, hu⟩

theorem separated_nil : Separated [] := by
  intro x before f between g after e
  simp at e

theorem Separated.append (h : Separated fs)
    (hf : ∀ x, f.about x = some true → lastAbout fs x ≠ some true) : Separated (fs ++ [f]) := by
  intro x before g between g' after e hg hg'
  rcases List.eq_nil_or_concat' after with rfl | ⟨after, u, rfl⟩
  · rw [← List.cons_append, ← List.append_assoc] at e
    obtain ⟨rfl, e'⟩ := List.append_inj' e rfl
    rw [← List.singleton_inj.mp e'] at hg'
    exact exists_given_up (hf x hg') hg
  · have shape : before ++ g :: (between ++ g' :: (after ++ [u]))
        = (before ++ g :: (between ++ g' :: after)) ++ [u] := by simp
    rw [shape] at e
    exact h x before g between g' after (List.append_inj' e rfl).1 hg hg'

structure Upright (fs : List Frame) (carried : List Subscription) : Prop where
  carries : ∀ x, x ∈ carried ↔ Serves fs x
  separated : Separated fs
  unended : ∀ code reason, Frame.close code reason ∉ fs

theorem upright_nil : Upright [] [] where
  carries x := by simp [Serves, lastAbout]
  separated := separated_nil
  unended _ _ := List.not_mem_nil

theorem Upright.write (h : Upright fs carried) (about : ∀ x, f.about x = none)
    (open' : ∀ code reason, f ≠ .close code reason) : Upright (fs ++ [f]) carried where
  carries x := by
    rw [h.carries, Serves, Serves, lastAbout_append, about, Option.none_or]
  separated := h.separated.append fun x hx => by simp [about] at hx
  unended code reason hm := by
    rcases List.mem_append.mp hm with hm | hm
    · exact h.unended code reason hm
    · exact open' code reason (List.mem_singleton.mp hm).symm

theorem Upright.subscribe (h : Upright fs carried) (hx : x ∉ carried) :
    Upright (fs ++ [.subscribeTo x]) (carried ++ [x]) where
  carries y := by
    rw [List.mem_append, List.mem_singleton, h.carries, Serves, Serves, lastAbout_append,
      about_subscribeTo]
    by_cases hy : y = x <;> simp [hy]
  separated := by
    refine h.separated.append fun y hy => ?_
    rw [about_subscribeTo] at hy
    split at hy
    · next e =>
        rw [e]
        exact fun hs => hx ((h.carries x).mpr hs)
    · cases hy
  unended code reason hm := by
    rcases List.mem_append.mp hm with hm | hm
    · exact h.unended code reason hm
    · cases List.mem_singleton.mp hm

theorem Upright.unsubscribe (h : Upright fs carried) :
    Upright (fs ++ [.unsubscribeFrom x]) (carried.filter (· != x)) where
  carries y := by
    rw [List.mem_filter, h.carries, Serves, Serves, lastAbout_append, about_unsubscribeFrom]
    by_cases hy : y = x <;> simp [hy]
  separated := by
    refine h.separated.append fun y hy => ?_
    rw [about_unsubscribeFrom] at hy
    split at hy <;> cases hy
  unended code reason hm := by
    rcases List.mem_append.mp hm with hm | hm
    · exact h.unended code reason hm
    · cases List.mem_singleton.mp hm

def IsLogin : Access → List Frame → Prop
  | .marketData, fs => fs = []
  | .account c, fs => ∃ seconds, fs = [.request (.login (Signature.Login.signed c seconds))]

def Listed (h : List Event) (n : Nat) (xs : List Subscription) : Prop :=
  ∃ before after, h = before ++ .listed n xs :: after ∧ xs = wanted before ∧ xs.Nodup

structure Opened (access : Access) (h : List Event) (n : Nat) (login : List Frame)
    (replayed : List Subscription) : Prop where
  login : IsLogin access login
  welcomed : access.isPrivate = true → .loggedIn n ∈ h
  listed : Listed h n replayed
  first : n = 1 → replayed = []

inductive Routine : Frame → Prop where
  | ping : Routine .ping
  | subscribe (x : Subscription) : Routine (.subscribeTo x)
  | unsubscribe (x : Subscription) : Routine (.unsubscribeFrom x)

inductive Script (access : Access) (h : List Event) (n : Nat) : List Frame → Prop where
  | greeting {login fs : List Frame} :
      IsLogin access login → fs <+: login → Script access h n fs
  | serving {login fs tail : List Frame} {replayed : List Subscription} :
      Opened access h n login replayed → (∀ f ∈ tail, Routine f) →
      fs <+: replayed.map .subscribeTo ++ tail → Script access h n (login ++ fs)

structure Disciplined (access : Access) (h : List Event) (n : Nat) (fs : List Frame) : Prop where
  script : Script access h n (texts fs)
  separated : Separated fs
  silent : ∀ before code reason after, fs = before ++ .close code reason :: after →
    texts after = []

variable {access : Access} {h : List Event} {n : Nat} {login : List Frame}
  {replayed rest : List Subscription}

theorem exists_isLogin (access : Access) : ∃ login, IsLogin access login := by
  cases access with
  | marketData => exact ⟨[], rfl⟩
  | account c => exact ⟨_, 0, rfl⟩

theorem Listed.mono (hl : Listed h n replayed) (es : List Event) : Listed (h ++ es) n replayed := by
  obtain ⟨before, after, e, rest⟩ := hl
  exact ⟨before, after ++ es, by simp [e], rest⟩

theorem Opened.mono (ho : Opened access h n login replayed) (es : List Event) :
    Opened access (h ++ es) n login replayed :=
  ⟨ho.login, fun hp => List.mem_append_left _ (ho.welcomed hp), ho.listed.mono es, ho.first⟩

theorem Script.mono (hs : Script access h n fs) (es : List Event) :
    Script access (h ++ es) n fs := by
  cases hs with
  | greeting hl hf => exact .greeting hl hf
  | serving ho ht hf => exact .serving (ho.mono es) ht hf

theorem Disciplined.mono (hd : Disciplined access h n fs) (es : List Event) :
    Disciplined access (h ++ es) n fs :=
  ⟨hd.script.mono es, hd.separated, hd.silent⟩

theorem Upright.disciplined (hu : Upright fs carried) (script : Script access h n (texts fs)) :
    Disciplined access h n fs := by
  refine ⟨script, hu.separated, ?_⟩
  intro before code reason after e
  exact absurd (e ▸ List.mem_append_right _ List.mem_cons_self) (hu.unended code reason)

theorem Upright.farewell (hu : Upright fs carried) (script : Script access h n (texts fs)) :
    Disciplined access h n (fs ++ [Link.farewell]) := by
  refine ⟨?_, hu.separated.append fun x hx => by simp [Link.farewell, Frame.about] at hx, ?_⟩
  · have quiet : texts [Link.farewell] = [] := rfl
    rw [texts_append, quiet, List.append_nil]
    exact script
  · intro before code reason after e
    rcases List.eq_nil_or_concat' after with rfl | ⟨after, u, rfl⟩
    · rfl
    · rw [← List.cons_append, ← List.append_assoc] at e
      have same := (List.append_inj' e rfl).1
      exact absurd (same ▸ List.mem_append_right _ List.mem_cons_self) (hu.unended code reason)

def Untouched (fs : List Frame) (carried : List Subscription) : Prop := fs = [] ∧ carried = []

structure Greeted (access : Access) (fs : List Frame) (carried : List Subscription) : Prop where
  upright : Upright fs carried
  blank : carried = []
  login : IsLogin access (texts fs)

structure Restoring (access : Access) (h : List Event) (n : Nat) (rest : List Subscription)
    (fs : List Frame) (carried : List Subscription) : Prop where
  upright : Upright fs carried
  restored : ∃ login, Opened access h n login (carried ++ rest) ∧
    texts fs = login ++ carried.map .subscribeTo

structure Serving (access : Access) (h : List Event) (n : Nat) (fs : List Frame)
    (carried : List Subscription) : Prop where
  upright : Upright fs carried
  served : ∃ login replayed tail, Opened access h n login replayed ∧
    (∀ f ∈ tail, Routine f) ∧ texts fs = login ++ (replayed.map .subscribeTo ++ tail)

theorem Untouched.disciplined (hu : Untouched fs carried) : Disciplined access h n fs := by
  obtain ⟨rfl, _⟩ := hu
  obtain ⟨login, hl⟩ := exists_isLogin access
  exact upright_nil.disciplined (.greeting hl List.nil_prefix)

theorem Greeted.disciplined (hg : Greeted access fs carried) : Disciplined access h n fs :=
  hg.upright.disciplined (.greeting hg.login List.prefix_rfl)

theorem Restoring.disciplined (hr : Restoring access h n rest fs carried) :
    Disciplined access h n fs := by
  obtain ⟨login, ho, ht⟩ := hr.restored
  refine hr.upright.disciplined ?_
  have none : ∀ f ∈ ([] : List Frame), Routine f := fun _ hf => absurd hf List.not_mem_nil
  rw [ht]
  refine .serving ho none ?_
  rw [List.append_nil, List.map_append]
  exact List.prefix_append ..

theorem Serving.script (hs : Serving access h n fs carried) : Script access h n (texts fs) := by
  obtain ⟨login, replayed, tail, ho, hr, ht⟩ := hs.served
  rw [ht]
  exact .serving ho hr List.prefix_rfl

theorem Serving.disciplined (hs : Serving access h n fs carried) : Disciplined access h n fs :=
  hs.upright.disciplined hs.script

theorem Restoring.mono (hr : Restoring access h n rest fs carried) (es : List Event) :
    Restoring access (h ++ es) n rest fs carried := by
  obtain ⟨login, ho, ht⟩ := hr.restored
  exact ⟨hr.upright, login, ho.mono es, ht⟩

theorem Serving.mono (hs : Serving access h n fs carried) (es : List Event) :
    Serving access (h ++ es) n fs carried := by
  obtain ⟨login, replayed, tail, ho, hr, ht⟩ := hs.served
  exact ⟨hs.upright, login, replayed, tail, ho.mono es, hr, ht⟩

theorem Untouched.greeted (hu : Untouched fs carried) {c : Credentials}
    (hacc : access = .account c) (seconds : Int) :
    Greeted access (fs ++ [.request (.login (Signature.Login.signed c seconds))]) carried := by
  obtain ⟨rfl, rfl⟩ := hu
  refine ⟨upright_nil.write (fun _ => rfl) (fun _ _ e => by cases e), rfl, ?_⟩
  rw [hacc]
  exact ⟨seconds, rfl⟩

theorem Greeted.pong (hg : Greeted access fs carried) (payload : String) :
    Greeted access (fs ++ [.pong payload]) carried := by
  refine ⟨hg.upright.write (fun _ => rfl) (fun _ _ e => by cases e), hg.blank, ?_⟩
  have quiet : texts [.pong payload] = [] := rfl
  rw [texts_append, quiet, List.append_nil]
  exact hg.login

theorem Serving.pong (hs : Serving access h n fs carried) (payload : String) :
    Serving access h n (fs ++ [.pong payload]) carried := by
  refine ⟨hs.upright.write (fun _ => rfl) (fun _ _ e => by cases e), ?_⟩
  have quiet : texts [.pong payload] = [] := rfl
  rw [texts_append, quiet, List.append_nil]
  exact hs.served

theorem Greeted.listed (hg : Greeted access fs carried) {xs : List Subscription}
    (ho : Opened access h n (texts fs) xs) : Restoring access h n xs fs carried := by
  obtain rfl := hg.blank
  exact ⟨hg.upright, texts fs, ho, by simp⟩

theorem Restoring.fresh (hr : Restoring access h n (x :: rest) fs carried) : x ∉ carried := by
  obtain ⟨login, ho, _⟩ := hr.restored
  obtain ⟨_, _, _, _, nodup⟩ := ho.listed
  exact fun hx => (List.nodup_append.mp nodup).2.2 x hx x List.mem_cons_self rfl

theorem Restoring.subscribe (hr : Restoring access h n (x :: rest) fs carried) :
    Restoring access h n rest (fs ++ [.subscribeTo x]) (carried ++ [x]) := by
  obtain ⟨login, ho, ht⟩ := hr.restored
  refine ⟨hr.upright.subscribe hr.fresh, login, ?_, ?_⟩
  · rw [List.append_assoc]
    exact ho
  · have text : texts [.subscribeTo x] = [.subscribeTo x] := rfl
    rw [texts_append, text, ht, List.map_append, List.append_assoc]
    rfl

theorem Restoring.done (hr : Restoring access h n [] fs carried) :
    Serving access h n fs carried := by
  obtain ⟨login, ho, ht⟩ := hr.restored
  rw [List.append_nil] at ho
  exact ⟨hr.upright, login, carried, [], ho, fun _ hf => absurd hf List.not_mem_nil, by simp [ht]⟩

theorem Serving.routine (hs : Serving access h n fs carried) (hf : Routine f)
    {carried' : List Subscription} (upright : Upright (fs ++ [f]) carried') :
    Serving access h n (fs ++ [f]) carried' := by
  obtain ⟨login, replayed, tail, ho, hr, ht⟩ := hs.served
  refine ⟨upright, login, replayed, tail ++ [f], ho, ?_, ?_⟩
  · intro g hg
    rcases List.mem_append.mp hg with hg | hg
    · exact hr g hg
    · rw [List.mem_singleton.mp hg]
      exact hf
  · have text : texts [f] = [f] := by cases hf <;> rfl
    rw [texts_append, text, ht, List.append_assoc, List.append_assoc]

theorem Serving.ping (hs : Serving access h n fs carried) :
    Serving access h n (fs ++ [.ping]) carried :=
  hs.routine .ping (hs.upright.write (fun _ => rfl) fun _ _ e => by cases e)

theorem Serving.subscribe (hs : Serving access h n fs carried) (hx : x ∉ carried) :
    Serving access h n (fs ++ [.subscribeTo x]) (carried ++ [x]) :=
  hs.routine (.subscribe x) (hs.upright.subscribe hx)

theorem Serving.unsubscribe (hs : Serving access h n fs carried) :
    Serving access h n (fs ++ [.unsubscribeFrom x]) (carried.filter (· != x)) :=
  hs.routine (.unsubscribe x) hs.upright.unsubscribe

end MarketWire.Stream
