import MarketWire.Channel.Subscription
import MarketWire.Json.Fields
import MarketWire.Proofs.Json.Reading

namespace MarketWire.Channel

open Members (Distinct)

namespace Params

theorem ext_find {p q : Params} (same : ∀ n, p.find? n = q.find? n) : p = q :=
  ext (p.sorted.ext q.sorted same)

@[simp] theorem find?_insert {p : Params} {n m v : String} :
    (p.insert m v).find? n = if n = m then some v else p.find? n := Members.lookup_insert

theorem find?_ofList {es : List (String × String)} {n : String} :
    (ofList es).find? n = es.reverse.lookup n := Members.lookup_ofList

@[simp] theorem ofList_entries (p : Params) : ofList p.entries = p := ext p.sorted.ofList_eq

end Params

namespace Subscription

variable {s : Subscription} {ms ns : List (String × Json)} {es : List (String × String)}

theorem ofArg?_eq_some (h : Distinct ms) :
    ofArg? (.obj ms) = some s ↔
      (ms.lookup channelName).bind Json.str? = some s.channel ∧
        ∀ n, s.params.find? n = if n = channelName then none else (ms.lookup n).bind Json.str? := by
  let g : String × Json → Option (String × String) := fun m =>
    if m.1 = channelName then none else m.2.str?.map fun v => (m.1, v)
  have keeps : ∀ x y, g x = some y → y.1 = x.1 := by
    intro x y e
    simp only [g] at e
    split at e
    · cases e
    · obtain ⟨v, _, rfl⟩ := Option.map_eq_some_iff.mp e
      rfl
  have found : ∀ n, (Params.ofList (ms.filterMap g)).find? n
      = if n = channelName then none else (ms.lookup n).bind Json.str? := by
    intro n
    obtain ⟨distinct, lookup⟩ := h.filterMap keeps (k := n)
    rw [Params.find?, Params.ofList, distinct.lookup_ofList, lookup]
    by_cases hn : n = channelName
    · cases ms.lookup n <;> simp [g, hn]
    · cases ms.lookup n <;> simp [g, hn, Option.map_map, Function.comp_def]
  simp only [ofArg?, Json.find?]
  cases hc : (ms.lookup channelName).bind Json.str? with
  | none => simp
  | some channel =>
      constructor
      · rintro e
        cases e
        exact ⟨rfl, found⟩
      · rintro ⟨same, params⟩
        cases same
        refine congrArg some (congrArg (Subscription.mk s.channel) (Params.ext_find fun n => ?_))
        exact (found n).trans (params n).symm

theorem ofArg?_congr (hm : Distinct ms) (hn : Distinct ns)
    (same : ∀ n, (ns.lookup n).bind Json.str? = (ms.lookup n).bind Json.str?) :
    ofArg? (.obj ns) = ofArg? (.obj ms) := by
  refine Option.ext fun s => ?_
  rw [ofArg?_eq_some hm, ofArg?_eq_some hn, same]
  simp only [same]

def Echoes (ms ns : List (String × Json)) : Prop :=
  Distinct ns ∧ ∃ extra, ns.Perm (ms ++ extra) ∧ ∀ m ∈ extra, m.2.str? = none

theorem Echoes.distinct (h : Echoes ms ns) : Distinct ms := by
  obtain ⟨distinct, extra, perm, _⟩ := h
  have all : Distinct (ms ++ extra) := (perm.map Prod.fst).nodup_iff.mp distinct
  rw [Distinct, List.map_append] at all
  exact all.of_append_left

theorem Echoes.ofArg? (h : Echoes ms ns) : ofArg? (.obj ns) = ofArg? (.obj ms) := by
  refine ofArg?_congr h.distinct h.1 fun n => ?_
  obtain ⟨distinct, extra, perm, mute⟩ := h
  rw [distinct.lookup_perm perm, List.lookup_append]
  cases ms.lookup n with
  | some v => rfl
  | none =>
      rw [Option.none_or, Option.bind_none, Option.bind_eq_none_iff]
      intro v hv
      obtain ⟨before, after, rfl, _⟩ := List.lookup_eq_some_iff.mp hv
      exact mute (n, v) (by simp)

theorem ofArg?_object (h : Distinct ms) : ofArg? (Json.object ms) = ofArg? (.obj ms) :=
  ofArg?_congr h (Members.sorted_ofList ms).distinct fun _ => by rw [h.lookup_ofList]

theorem ofArg?_tidy (h : Distinct ms) : ofArg? (Json.tidy (.obj ms)) = ofArg? (.obj ms) := by
  have distinct := Json.distinct_tidyMembers.mpr h
  rw [Json.tidy, ofArg?_object distinct]
  refine ofArg?_congr h distinct fun n => ?_
  rw [Json.lookup_tidyMembers]
  cases ms.lookup n <;> simp [Json.str?_tidy]

def channels (es : List (String × String)) : List String :=
  (es.filter fun e => e.1 == channelName).map Prod.snd

def others (es : List (String × String)) : List (String × String) :=
  es.filter fun e => e.1 != channelName

theorem channels_cons (n v : String) (es : List (String × String)) :
    channels ((n, v) :: es) = if n = channelName then v :: channels es else channels es := by
  by_cases hn : n = channelName <;> simp [channels, hn]

theorem others_cons (n v : String) (es : List (String × String)) :
    others ((n, v) :: es) = if n = channelName then others es else (n, v) :: others es := by
  by_cases hn : n = channelName <;> simp [others, hn]

def assemble : List String → List (String × String) → Option Subscription
  | [channel], params => some ⟨channel, Params.ofList params⟩
  | _, _ => none

def ofTexts? (es : List (String × String)) : Option Subscription :=
  assemble (channels es) (others es)

def texts? : List (Json.Literal × Json.Draft) → Option (List (String × String))
  | [] => some []
  | (l, d) :: rest =>
      (Json.Literal.text? l).bind fun n => d.str?.bind fun v => (texts? rest).map ((n, v) :: ·)

theorem readMembers_eq (ds : List (Json.Literal × Json.Draft)) :
    ∀ (channel : Option String) (params : List (String × String)),
      readMembers ds channel params = (texts? ds).bind fun es =>
        assemble (channel.toList ++ channels es) (params.reverse ++ others es) := by
  induction ds with
  | nil =>
      rintro (_ | channel) params
      · rfl
      · simp [readMembers, texts?, channels, others, assemble]
  | cons x ds ih =>
      obtain ⟨l, d⟩ := x
      intro channel params
      simp only [readMembers, texts?]
      cases hl : Json.Literal.text? l with
      | none => rfl
      | some n =>
          cases hd : d.str? with
          | none => rfl
          | some v =>
              simp only [Option.bind_some, Option.bind_map]
              by_cases hn : n = channelName
              · rw [if_pos hn]
                cases channel with
                | none =>
                    rw [ih]
                    refine Option.bind_congr fun es _ => ?_
                    rw [Function.comp_apply, channels_cons, others_cons, if_pos hn, if_pos hn]
                    rfl
                | some c =>
                    refine (Option.bind_eq_none_iff.mpr fun es _ => ?_).symm
                    rw [Function.comp_apply, channels_cons, if_pos hn]
                    rfl
              · rw [if_neg hn, ih]
                refine Option.bind_congr fun es _ => ?_
                rw [Function.comp_apply, channels_cons, others_cons, if_neg hn, if_neg hn,
                  List.reverse_cons, List.append_assoc, List.singleton_append]

theorem read?_eq (text : String) :
    read? text = (Json.Draft.read? text.toList).bind fun d =>
      match d with
      | .obj ds => (texts? ds).bind ofTexts?
      | _ => none := by
  rw [read?]
  cases Json.Draft.read? text.toList with
  | none => rfl
  | some d =>
      cases d with
      | obj ds => exact readMembers_eq ds none []
      | _ => rfl

theorem members?_of_texts? {ds : List (Json.Literal × Json.Draft)} {levels : Nat}
    (h : texts? ds = some es) : Json.Draft.members? levels ds = some (Json.texts es) := by
  induction ds generalizing es with
  | nil =>
      cases h
      rfl
  | cons x ds ih =>
      obtain ⟨l, d⟩ := x
      obtain ⟨n, hl, h⟩ := Option.bind_eq_some_iff.mp h
      obtain ⟨v, hd, h⟩ := Option.bind_eq_some_iff.mp h
      obtain ⟨rest, hr, rfl⟩ := Option.map_eq_some_iff.mp h
      cases d with
      | str k =>
          have value : Json.Literal.text? k = some v := hd
          simp [Json.Draft.members?, Json.Draft.value?, hl, value, ih hr, Json.texts]
      | _ => cases hd

theorem texts?_written :
    texts? (es.map fun e => (Json.Literal.ofText e.1, .str (Json.Literal.ofText e.2)))
      = some es := by
  induction es with
  | nil => rfl
  | cons e es ih =>
      rw [List.map_cons, texts?, ih]
      simp [Json.Draft.str?]

theorem read?_texts : read? (Json.obj (Json.texts es)).text = ofTexts? es := by
  have draft : Json.draft? (.obj (Json.texts es)) = some (.obj
      (es.map fun e => (Json.Literal.ofText e.1, .str (Json.Literal.ofText e.2)))) := by
    rw [Json.draft?, Json.memberDrafts?_texts]
    rfl
  rw [read?_eq, Json.toList_text, Json.Draft.read?_write draft, Option.bind_some]
  simp only [texts?_written, Option.bind_some]

theorem lookup_channels : (es.lookup channelName) = (channels es).head? := by
  rw [channels]
  induction es with
  | nil => rfl
  | cons e es ih =>
      obtain ⟨n, v⟩ := e
      rw [Members.lookup_cons, ih]
      by_cases hn : n = channelName
      · simp [hn]
      · simp [hn, Ne.symm hn]

theorem ofTexts?_eq_some :
    ofTexts? es = some s ↔ channels es = [s.channel] ∧ s.params = Params.ofList (others es) := by
  rw [ofTexts?]
  match channels es with
  | [] => simp [assemble]
  | [c] =>
      simp only [assemble, Option.some.injEq, List.cons.injEq, and_true]
      constructor
      · rintro rfl
        exact ⟨rfl, rfl⟩
      · rintro ⟨rfl, same⟩
        rw [← same]
  | _ :: _ :: _ => simp [assemble]

theorem ofArg?_of_ofTexts? (h : ofTexts? es = some s) :
    ofArg? (Json.object (Json.texts es)) = some s := by
  obtain ⟨once, params⟩ := ofTexts?_eq_some.mp h
  have channel : es.reverse.lookup channelName = some s.channel := by
    have reversed : channels es.reverse = (channels es).reverse := by
      rw [channels, channels, List.filter_reverse, List.map_reverse]
    rw [lookup_channels, reversed, once]
    rfl
  refine (ofArg?_eq_some (Members.sorted_ofList _).distinct).mpr ⟨?_, fun n => ?_⟩
  · rw [Json.lookup_ofList_texts, channel]
    rfl
  · rw [params, Params.find?_ofList, others, ← List.filter_reverse, Members.lookup_filter,
      Json.lookup_ofList_texts]
    cases es.reverse.lookup n <;> rfl

theorem channels_distinct (h : Distinct es) : (channels es).length ≤ 1 := by
  have keys : ((es.filter fun e => e.1 == channelName).map Prod.fst).Nodup :=
    h.sublist (List.filter_sublist.map _)
  have same : ∀ n ∈ (es.filter fun e => e.1 == channelName).map Prod.fst, n = channelName := by
    intro n hn
    obtain ⟨e, he, rfl⟩ := List.mem_map.mp hn
    exact beq_iff_eq.mp (List.mem_filter.mp he).2
  rw [List.eq_replicate_of_mem same, List.length_map, List.nodup_replicate] at keys
  rw [channels, List.length_map]
  exact keys

theorem ofTexts?_eq_ofArg? (h : Distinct es) : ofTexts? es = ofArg? (.obj (Json.texts es)) := by
  have distinct := Json.distinct_texts.mpr h
  have found : ∀ {s}, ofTexts? es = some s → ofArg? (.obj (Json.texts es)) = some s :=
    fun taken => ofArg?_object distinct ▸ ofArg?_of_ofTexts? taken
  match hc : channels es with
  | [c] =>
      have taken : ofTexts? es = some ⟨c, Params.ofList (others es)⟩ :=
        ofTexts?_eq_some.mpr ⟨hc, rfl⟩
      rw [taken, found taken]
  | [] =>
      have absent : es.lookup channelName = none := by rw [lookup_channels, hc, List.head?_nil]
      have untaken : ofTexts? es = none := by rw [ofTexts?, hc, assemble]; simp
      rw [untaken]
      refine (Option.eq_none_iff_forall_ne_some.mpr fun s taken => ?_).symm
      have channel := ((ofArg?_eq_some distinct).mp taken).1
      rw [Json.lookup_texts, absent] at channel
      cases channel
  | c :: d :: rest =>
      have once := channels_distinct h
      rw [hc] at once
      simp at once

def members (s : Subscription) : List (String × String) :=
  (channelName, s.channel) :: s.params.entries

theorem toJson_eq (s : Subscription) : s.toJson = .obj (Json.texts s.members) := rfl

theorem ofTexts?_members (h : s.param channelName = none) : ofTexts? s.members = some s := by
  have unnamed : ∀ e ∈ s.params.entries, e.1 ≠ channelName := by
    intro e he same
    exact Members.lookup_eq_none.mp h (same ▸ List.mem_map_of_mem he)
  have once : channels s.params.entries = [] := by
    rw [channels, List.filter_eq_nil_iff.mpr fun e he => by simpa using unnamed e he, List.map_nil]
  have all : others s.params.entries = s.params.entries :=
    List.filter_eq_self.mpr fun e he => by simpa using unnamed e he
  have first : channels s.members = s.channel :: channels s.params.entries := by
    simp [members, channels]
  have rest : others s.members = others s.params.entries := by simp [members, others]
  refine ofTexts?_eq_some.mpr ⟨by rw [first, once], ?_⟩
  rw [rest, all, Params.ofList_entries]

theorem param_of_ofArg? (h : ofArg? (Json.object ms) = some s) : s.param channelName = none :=
  (((ofArg?_eq_some (Members.sorted_ofList _).distinct).mp h).2 channelName).trans (if_pos rfl)

theorem ofArg?_members :
    ofArg? (Json.object (Json.texts s.members)) = some s ↔ s.param channelName = none :=
  ⟨param_of_ofArg?, fun h => ofArg?_of_ofTexts? (ofTexts?_members h)⟩

theorem read?_wireText : read? s.wireText = some s ↔ s.param channelName = none := by
  rw [wireText, toJson_eq, read?_texts]
  exact ⟨fun taken => param_of_ofArg? (ofArg?_of_ofTexts? taken), ofTexts?_members⟩

theorem readable_toJson {levels : Nat} : Json.Readable (levels + 1) s.toJson := by
  rw [toJson_eq]
  exact Json.readable_texts

theorem tidy_toJson : s.toJson.tidy = Json.object (Json.texts s.members) := by
  rw [toJson_eq]
  exact Json.tidy_texts

theorem ofArg?_wireText :
    (Json.read? s.wireText).bind ofArg? = some s ↔ s.param channelName = none := by
  rw [wireText, Json.read?_text readable_toJson, Option.bind_some, tidy_toJson, ofArg?_members]

theorem ofArg?_of_read? {text : String} (h : read? text = some s) :
    (Json.read? text).bind ofArg? = some s ∧ s.param channelName = none := by
  rw [read?_eq] at h
  obtain ⟨d, hd, h⟩ := Option.bind_eq_some_iff.mp h
  cases d with
  | obj ds =>
      obtain ⟨es, hes, taken⟩ := Option.bind_eq_some_iff.mp h
      have value : Json.read? text = some (Json.object (Json.texts es)) := by
        rw [Json.read?, hd, Option.bind_some, Json.maxLevels, Json.Draft.value?,
          members?_of_texts? hes]
        rfl
      have object := ofArg?_of_ofTexts? taken
      exact ⟨by rw [value, Option.bind_some, object], param_of_ofArg? object⟩
  | _ => cases h

end Subscription

end MarketWire.Channel
