import MarketWire.Rest.Framing

namespace MarketWire.Rest.Header

variable {name : String}

def values (name : String) (headers : List (String × String)) : List String :=
  (headers.filter fun h => h.1 == name).map Prod.snd

@[simp] theorem values_nil : values name [] = [] := rfl

@[simp] theorem values_cons (h : String × String) (hs : List (String × String)) :
    values name (h :: hs) = if h.1 = name then h.2 :: values name hs else values name hs := by
  by_cases same : h.1 = name <;> simp [values, same]

@[simp] theorem values_append (hs ds : List (String × String)) :
    values name (hs ++ ds) = values name hs ++ values name ds := by
  simp [values]

theorem values_filter_of_imp {p : String × String → Bool} {hs : List (String × String)}
    (kept : ∀ h ∈ hs, h.1 = name → p h = true) : values name (hs.filter p) = values name hs := by
  rw [values, values, List.filter_filter]
  refine congrArg _ (List.filter_congr fun h hh => ?_)
  by_cases same : h.1 = name
  · simp [kept h hh same]
  · simp [same]

theorem values_eq_nil {hs : List (String × String)} :
    values name hs = [] ↔ ∀ h ∈ hs, h.1 ≠ name := by
  simp [values, List.filter_eq_nil_iff]

theorem hasName_eq_false {hs : List (String × String)} :
    hasName name hs = false ↔ values name hs = [] := by
  simp [hasName, values_eq_nil]

theorem values_set (hs : List (String × String)) (other value : String) :
    values name (set hs other value)
      = if lowerName other = name then [value] else values name hs := by
  rw [set, values_append]
  by_cases same : lowerName other = name
  · subst same
    have gone : values (lowerName other) (hs.filter fun h => h.1 != lowerName other) = [] := by
      rw [values_eq_nil]
      intro h hh e
      simp [e] at hh
    simp [gone]
  · have kept : values name (hs.filter fun h => h.1 != lowerName other) = values name hs :=
      values_filter_of_imp fun h _ e => by simp [e, Ne.symm same]
    simp [kept, same]

theorem values_withDefaults (defaults headers : List (String × String)) :
    values name (withDefaults defaults headers)
      = if values name headers = [] then values name defaults else values name headers := by
  rw [withDefaults, values_append]
  split
  · next unset =>
      rw [unset, List.nil_append]
      refine values_filter_of_imp fun d _ e => ?_
      rw [e, hasName_eq_false.mpr unset]
      rfl
  · next own =>
      have none : values name (defaults.filter fun d => !hasName d.1 headers) = [] := by
        rw [values_eq_nil]
        intro d hd e
        have unset : hasName d.1 headers = false := by simpa using (List.mem_filter.mp hd).2
        rw [e] at unset
        exact own (hasName_eq_false.mp unset)
      rw [none, List.append_nil]

theorem values_of_mem {hs : List (String × String)} (distinct : (hs.map Prod.fst).Nodup)
    {value : String} (mem : (name, value) ∈ hs) : values name hs = [value] := by
  induction hs with
  | nil => cases mem
  | cons h hs ih =>
      rw [List.map_cons, List.nodup_cons] at distinct
      rcases List.mem_cons.mp mem with rfl | mem
      · have others : values name hs = [] :=
          values_eq_nil.mpr fun d hd e => distinct.1 (List.mem_map.mpr ⟨d, hd, e⟩)
        simp [others]
      · have differ : h.1 ≠ name := fun e => distinct.1 (List.mem_map.mpr ⟨_, mem, e.symm⟩)
        rw [values_cons, if_neg differ, ih distinct.2 mem]

def Frames (name : String) : Prop := name = Framing.lengthName ∨ name = Framing.codingName

instance : DecidablePred Frames := fun name =>
  inferInstanceAs (Decidable (name = Framing.lengthName ∨ name = Framing.codingName))

theorem values_without {other : String} (differ : name ≠ other) (hs : List (String × String)) :
    values name (Framing.without other hs) = values name hs :=
  values_filter_of_imp fun h _ e => by simp [e, differ]

theorem lowerName_lengthName : lowerName Framing.lengthName = Framing.lengthName := by decide

theorem lowerName_codingName : lowerName Framing.codingName = Framing.codingName := by decide

theorem values_sentHeaders (aside : ¬Frames name) (hs : List (String × String))
    (body : List UInt8) : values name (Framing.sentHeaders hs body) = values name hs := by
  have length : name ≠ Framing.lengthName := fun e => aside (Or.inl e)
  have coding : name ≠ Framing.codingName := fun e => aside (Or.inr e)
  rw [Framing.sentHeaders]
  split
  · exact values_without coding hs
  · rw [Framing.headersWithBody]
    split
    · rw [values_set, lowerName_codingName, if_neg (Ne.symm coding), values_without length]
    · rw [values_set, lowerName_codingName, if_neg (Ne.symm coding)]
    · rfl
    · rw [values_set, lowerName_lengthName, if_neg (Ne.symm length)]

end MarketWire.Rest.Header
