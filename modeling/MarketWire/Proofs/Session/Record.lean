import MarketWire.Proofs.Session.Conduct
import Mathlib.Data.List.Basic

namespace MarketWire.Stream

def Since {α : Type} (mark : List α → α → Prop) (undo : α → Prop) (log : List α) : Prop :=
  ∃ before e after, log = before ++ e :: after ∧ mark before e ∧ ∀ d ∈ after, ¬undo d

theorem not_since_nil {α : Type} {mark : List α → α → Prop} {undo : α → Prop} :
    ¬Since mark undo [] := by
  rintro ⟨before, e, after, parts, _⟩
  simp at parts

theorem Since.append {α : Type} {mark : List α → α → Prop} {undo : α → Prop} {log : List α}
    (h : Since mark undo log) {es : List α} (kept : ∀ e ∈ es, ¬undo e) :
    Since mark undo (log ++ es) := by
  obtain ⟨before, d, after, rfl, marked, since⟩ := h
  refine ⟨before, d, after ++ es, by simp, marked, ?_⟩
  intro e he
  rcases List.mem_append.mp he with he | he
  · exact since e he
  · exact kept e he

theorem since_append {α : Type} {mark : List α → α → Prop} {undo : α → Prop} {log : List α}
    {e : α} :
    Since mark undo (log ++ [e]) ↔ mark log e ∨ ¬undo e ∧ Since mark undo log := by
  constructor
  · rintro ⟨before, d, after, parts, marked, kept⟩
    rcases List.eq_nil_or_concat' after with rfl | ⟨after, c, rfl⟩
    · obtain ⟨rfl, last⟩ := List.append_inj' parts rfl
      cases last
      exact Or.inl marked
    · rw [← List.cons_append, ← List.append_assoc] at parts
      obtain ⟨rfl, last⟩ := List.append_inj' parts rfl
      cases last
      refine Or.inr ⟨kept e (by simp), before, d, after, rfl, marked, ?_⟩
      exact fun c hc => kept c (List.mem_append_left _ hc)
  · rintro (marked | ⟨lasting, since⟩)
    · exact ⟨log, e, [], rfl, marked, fun _ hd => absurd hd List.not_mem_nil⟩
    · exact since.append fun d hd => List.mem_singleton.mp hd ▸ lasting

def Throughout {α : Type} (law : List α → α → Prop) (log : List α) : Prop :=
  ∀ before e after, log = before ++ e :: after → law before e

theorem throughout_nil {α : Type} {law : List α → α → Prop} : Throughout law [] := by
  intro before e after parts
  simp at parts

theorem Throughout.append {α : Type} {law : List α → α → Prop} {log : List α} {e : α}
    (h : Throughout law log) (last : law log e) : Throughout law (log ++ [e]) := by
  intro before d after parts
  rcases List.eq_nil_or_concat' after with rfl | ⟨after, c, rfl⟩
  · obtain ⟨rfl, same⟩ := List.append_inj' parts rfl
    cases same
    exact last
  · rw [← List.cons_append, ← List.append_assoc] at parts
    exact h before d after (List.append_inj' parts rfl).1

namespace Session

variable {α : Type} {s t : Session}

def record (note : Session → Move → List α) (s : Session) : List Move → List α
  | [] => []
  | m :: ms => note s m ++ (s.step m).elim [] fun t => t.record note ms

theorem record_cons {note : Session → Move → List α} {m : Move} (ms : List Move)
    (h : s.step m = some t) : s.record note (m :: ms) = note s m ++ t.record note ms := by
  simp [record, h]

theorem record_append {note : Session → Move → List α} {ms : List Move} (run : Run s ms t)
    (ns : List Move) : s.record note (ms ++ ns) = s.record note ms ++ t.record note ns := by
  induction run with
  | nil s => rfl
  | cons first _ ih =>
      rw [List.cons_append, record_cons _ first, record_cons _ first, ih, List.append_assoc]

theorem Run.keeps_record {note : Session → Move → List α} {P : Move → Prop}
    {J : Session → List Event → Prop} {I : Session → List α → Prop}
    (hJ : ∀ {s t : Session} {m : Move} {h : List Event},
      P m → J s h → s.step m = some t → J t (h ++ s.events m))
    (hI : ∀ {s t : Session} {m : Move} {h : List Event} {ns : List α},
      P m → J s h → I s ns → s.step m = some t → I t (ns ++ note s m))
    {ms : List Move} (run : Run s ms t) :
    (∀ m ∈ ms, P m) → ∀ {h : List Event} {ns : List α}, J s h → I s ns →
      I t (ns ++ s.record note ms) := by
  induction run with
  | nil s =>
      intro _ h ns _ hs
      simpa [record] using hs
  | cons first _ ih =>
      intro hP h ns hj hs
      have here := hP _ List.mem_cons_self
      rw [record_cons _ first, ← List.append_assoc]
      exact ih (fun m hm => hP m (List.mem_cons_of_mem _ hm)) (hJ here hj first)
        (hI here hj hs first)

theorem Run.recorded {note : Session → Move → List α} {I : Session → List α → Prop} {p : Profile}
    {seconds : List Int} {draws : List Float} {ms : List Move}
    (run : Run (initial p seconds draws) ms t) (start : I (initial p seconds draws) [])
    (hI : ∀ {s t : Session} {m : Move} {h : List Event} {ns : List α},
      s.Conduct h → I s ns → s.step m = some t → I t (ns ++ note s m)) :
    I t ((initial p seconds draws).record note ms) :=
  run.keeps_record (P := fun _ => True) (J := Conduct) (fun _ hj hs => hj.step hs)
    (fun _ => hI) (fun _ _ => trivial) (h := []) (conduct_initial p seconds draws) start

end Session

end MarketWire.Stream
