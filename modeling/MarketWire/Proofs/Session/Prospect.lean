import MarketWire.Proofs.Session.Chronicle
import Mathlib.Data.List.Basic

namespace MarketWire.Stream

open Channel (Subscription)

theorem append_singleton_eq {α : Type} {xs before after : List α} {x y : α} :
    xs ++ [x] = before ++ y :: after ↔
      after = [] ∧ xs = before ∧ x = y ∨
        ∃ rest, after = rest ++ [x] ∧ xs = before ++ y :: rest := by
  rcases List.eq_nil_or_concat' after with rfl | ⟨rest, z, rfl⟩
  · constructor
    · intro e
      obtain ⟨hxs, hx⟩ := List.append_inj' e rfl
      exact Or.inl ⟨rfl, hxs, List.singleton_inj.mp hx⟩
    · rintro (⟨_, rfl, rfl⟩ | ⟨rest, hn, _⟩)
      · rfl
      · simp at hn
  · constructor
    · intro e
      rw [← List.cons_append, ← List.append_assoc] at e
      obtain ⟨hxs, hx⟩ := List.append_inj' e rfl
      exact Or.inr ⟨rest, by rw [hx], hxs⟩
    · rintro (⟨hn, _⟩ | ⟨rest', hr, rfl⟩)
      · simp at hn
      · rw [hr, List.append_assoc, List.cons_append]

def Abandoned (h : List Event) (x : Subscription) : Prop :=
  ∃ before after, h = before ++ .skipped x :: after ∧ .added x ∉ after

def Stray (h : List Event) (n : Nat) (x : Subscription) : Prop :=
  ∃ before after, h = before ++ .skipped x :: after ∧ .added x ∉ after ∧
    .taken n (.subscribe x) ∈ after

def Command.about (x : Subscription) : Command → Option Bool
  | .subscribe y => if x = y then some true else none
  | .unsubscribe y => if x = y then some false else none
  | _ => none

def lastWord (x : Subscription) : List Command → Option Bool
  | [] => none
  | cmd :: rest => (lastWord x rest).or (cmd.about x)

variable {h : List Event} {e : Event} {n : Nat} {x : Subscription}

theorem lastWord_append (cmds later : List Command) :
    lastWord x (cmds ++ later) = (lastWord x later).or (lastWord x cmds) := by
  induction cmds with
  | nil => simp [lastWord]
  | cons c cmds ih => simp [lastWord, ih, Option.or_assoc]

theorem lastWord_singleton (cmd : Command) : lastWord x [cmd] = cmd.about x := by
  simp [lastWord]

theorem Stray.abandoned (hs : Stray h n x) : Abandoned h x := by
  obtain ⟨before, after, e, unasked, _⟩ := hs
  exact ⟨before, after, e, unasked⟩

theorem Stray.taken (hs : Stray h n x) : .taken n (.subscribe x) ∈ h := by
  obtain ⟨before, after, rfl, _, taken⟩ := hs
  exact List.mem_append_right _ (List.mem_cons_of_mem _ taken)

theorem not_abandoned_nil : ¬Abandoned [] x := by
  rintro ⟨before, after, e, _⟩
  simp at e

theorem abandoned_append :
    Abandoned (h ++ [e]) x ↔ e = .skipped x ∨ Abandoned h x ∧ e ≠ .added x := by
  constructor
  · rintro ⟨before, after, split, unasked⟩
    rcases append_singleton_eq.mp split with ⟨_, _, he⟩ | ⟨rest, rfl, hh⟩
    · exact Or.inl he
    · rw [List.mem_append, List.mem_singleton, not_or] at unasked
      exact Or.inr ⟨⟨before, rest, hh, unasked.1⟩, Ne.symm unasked.2⟩
  · rintro (rfl | ⟨⟨before, after, rfl, unasked⟩, he⟩)
    · exact ⟨h, [], rfl, List.not_mem_nil⟩
    · refine ⟨before, after ++ [e], by simp, ?_⟩
      rw [List.mem_append, List.mem_singleton, not_or]
      exact ⟨unasked, Ne.symm he⟩

theorem stray_append :
    Stray (h ++ [e]) n x ↔
      Stray h n x ∧ e ≠ .added x ∨ Abandoned h x ∧ e = .taken n (.subscribe x) := by
  constructor
  · rintro ⟨before, after, split, unasked, taken⟩
    rcases append_singleton_eq.mp split with ⟨rfl, _, _⟩ | ⟨rest, rfl, hh⟩
    · cases taken
    · rw [List.mem_append, List.mem_singleton, not_or] at unasked
      rcases List.mem_append.mp taken with taken | taken
      · exact Or.inl ⟨⟨before, rest, hh, unasked.1, taken⟩, Ne.symm unasked.2⟩
      · exact Or.inr ⟨⟨before, rest, hh, unasked.1⟩, (List.mem_singleton.mp taken).symm⟩
  · rintro (⟨⟨before, after, rfl, unasked, taken⟩, he⟩ | ⟨⟨before, after, rfl, unasked⟩, rfl⟩)
    · refine ⟨before, after ++ [e], by simp, ?_, List.mem_append_left _ taken⟩
      rw [List.mem_append, List.mem_singleton, not_or]
      exact ⟨unasked, Ne.symm he⟩
    · refine ⟨before, after ++ [.taken n (.subscribe x)], by simp, ?_, by simp⟩
      rw [List.mem_append, List.mem_singleton, not_or]
      exact ⟨unasked, by simp⟩

structure Prospect where
  registered : Prop
  observed : Prop
  abandoned : Prop
  word : Option Bool

namespace Prospect

variable {v : Prospect} {held stray : Prop} {w b : Option Bool}

def IsGone (v : Prospect) : Prop := ¬v.registered ∧ ¬v.observed ∧ ¬v.abandoned

def Due (v : Prospect) (held : Prop) : Prop := v.word = some true ∨ v.word = none ∧ held

structure Fair (v : Prospect) : Prop where
  registered : v.registered → ¬v.observed ∧ ¬v.abandoned ∧ v.word ≠ some false
  observed : v.observed → ¬v.abandoned ∧ v.word ≠ some false
  abandoned : v.abandoned → v.word ≠ some false
  gone : v.IsGone → v.word ≠ some true

structure Firm (v : Prospect) (held stray : Prop) : Prop where
  registered : v.registered → v.Due held
  abandoned : v.abandoned → (v.Due held ↔ v.word = some true ∨ stray)
  gone : v.IsGone → ¬v.Due held

theorem Fair.heard (hf : v.Fair) (hw : v.word = w.or b) : Fair { v with word := w } := by
  have kept : ∀ c : Bool, w = some c → v.word = some c := by
    rintro c rfl
    rw [hw, Option.some_or]
  refine ⟨?_, ?_, ?_, ?_⟩
  · intro hr
    obtain ⟨ho, ha, hne⟩ := hf.registered hr
    exact ⟨ho, ha, fun e => hne (kept false e)⟩
  · intro ho
    obtain ⟨ha, hne⟩ := hf.observed ho
    exact ⟨ha, fun e => hne (kept false e)⟩
  · exact fun ha e => hf.abandoned ha (kept false e)
  · exact fun hg e => hf.gone hg (kept true e)

theorem Firm.heard (hf : v.Fair) (firm : v.Firm held stray) (hw : v.word = w.or b) {held' : Prop}
    (settled : ∀ c, b = some c → (held' ↔ c = true)) (untouched : b = none → (held' ↔ held)) :
    Firm { v with word := w } held' (stray ∨ v.abandoned ∧ b = some true) := by
  have due : Due { v with word := w } held' ↔ v.Due held := by
    simp only [Due, hw]
    cases w with
    | some c => simp
    | none =>
        cases b with
        | none => simp [untouched rfl]
        | some c => simp [settled c rfl]
  refine ⟨fun hr => due.mpr (firm.registered hr), ?_, fun hg hd => firm.gone hg (due.mp hd)⟩
  intro ha
  rw [due, firm.abandoned ha]
  -- the command that has been carried out did not give it up, so it either asks for it or is not
  -- about it
  have hne : v.word ≠ some false := hf.abandoned ha
  rw [hw] at hne ⊢
  cases w with
  | some c => cases c <;> simp_all
  | none => simp [show v.abandoned from ha, or_comm]

theorem Fair.listed (hf : v.Fair) (hh : held ↔ v.registered) (hs : ¬stray) :
    v.Firm held stray := by
  refine ⟨?_, ?_, ?_⟩
  · intro hr
    have hne := (hf.registered hr).2.2
    cases hw : v.word with
    | none => exact Or.inr ⟨hw, hh.mpr hr⟩
    | some c =>
        cases c with
        | true => exact Or.inl hw
        | false => exact absurd hw hne
  · intro ha
    have hn : ¬held := fun e => (hf.registered (hh.mp e)).2.1 ha
    simp [Due, hn, hs]
  · rintro hg (e | ⟨_, e⟩)
    · exact hf.gone hg e
    · exact hg.1 (hh.mp e)

theorem Fair.cleared (hf : v.Fair) : Fair { v with word := none } :=
  hf.heard (b := v.word) (by simp)

theorem fair_added : Fair ⟨True, False, False, some true⟩ := by
  refine ⟨?_, ?_, ?_, ?_⟩ <;> simp [IsGone]

theorem firm_added : Firm ⟨True, False, False, some true⟩ held stray := by
  refine ⟨?_, ?_, ?_⟩ <;> simp [Due, IsGone]

theorem fair_noticed : Fair ⟨False, False, False, some false⟩ := by
  refine ⟨?_, ?_, ?_, ?_⟩ <;> simp

theorem firm_noticed : Firm ⟨False, False, False, some false⟩ held stray := by
  refine ⟨?_, ?_, ?_⟩ <;> simp [Due]

theorem Fair.removed (hf : v.Fair) (hr : v.registered) : Fair ⟨False, True, v.abandoned, v.word⟩ := by
  obtain ⟨_, ha, hne⟩ := hf.registered hr
  refine ⟨?_, fun _ => ⟨ha, hne⟩, fun e => absurd e ha, ?_⟩
  · simp
  · simp [IsGone]

theorem Fair.firm_removed (hf : v.Fair) (hr : v.registered) :
    Firm ⟨False, True, v.abandoned, v.word⟩ held stray := by
  have ha := (hf.registered hr).2.1
  refine ⟨?_, fun e => absurd e ha, ?_⟩
  · simp
  · simp [IsGone]

theorem Fair.skipped (hf : v.Fair) (ho : v.observed) : Fair ⟨False, False, True, v.word⟩ := by
  have hne := (hf.observed ho).2
  refine ⟨?_, ?_, fun _ => hne, ?_⟩
  · simp
  · simp
  · simp [IsGone]

theorem Firm.atRest (hf : v.Fair) (firm : v.Firm held stray) (hw : v.word = none)
    (ho : ¬v.observed) (hs : stray → v.abandoned) :
    (held ↔ v.registered ∨ stray) ∧ (stray → ¬v.registered) := by
  have due : v.Due held ↔ held := by simp [Due, hw]
  have exclusive : stray → ¬v.registered := fun e hr => (hf.registered hr).2.1 (hs e)
  refine ⟨⟨?_, ?_⟩, exclusive⟩
  · intro hh
    by_cases hr : v.registered
    · exact Or.inl hr
    · by_cases ha : v.abandoned
      · have := (firm.abandoned ha).mp (due.mpr hh)
        rw [hw] at this
        exact Or.inr (by simpa using this)
      · exact absurd (due.mpr hh) (firm.gone ⟨hr, ho, ha⟩)
  · rintro (hr | e)
    · exact due.mp (firm.registered hr)
    · exact due.mp ((firm.abandoned (hs e)).mpr (Or.inr e))

end Prospect

end MarketWire.Stream
