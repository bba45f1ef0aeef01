import MarketWire.Message
import MarketWire.Proofs.Encoding
import MarketWire.Proofs.Json.Reading

namespace MarketWire

open Members (Distinct)

namespace Json

variable {members : List (String × Json)} {names : List String}

theorem fillField_map {g : String → Option Draft} {name : String} {d : Draft}
    (once : names.Nodup) (free : name ∈ names → g name = none) :
    fillField name d names (names.map g)
      = some (names.map fun n => if n = name then some d else g n) := by
  induction names with
  | nil => rfl
  | cons n names ih =>
      obtain ⟨new, once⟩ := List.nodup_cons.mp once
      rw [List.map_cons, List.map_cons]
      unfold fillField
      by_cases hn : n = name
      · subst hn
        have others : (names.map fun m => if m = n then some d else g m) = names.map g := by
          refine List.map_congr_left fun m hm => if_neg ?_
          rintro rfl
          exact new hm
        rw [if_pos rfl, if_pos rfl, free List.mem_cons_self, others]
      · rw [if_neg hn, if_neg hn, ih once fun known => free (List.mem_cons_of_mem _ known)]
        rfl

theorem fillFields_named {β : Type} {draftOf : β → Option Draft} {ds : List (Literal × Draft)}
    {es : List (String × β)} (once : names.Nodup) (named : Named draftOf ds es)
    (single : Members.Single names es) :
    ∀ {g : String → Option Draft}, (∀ e ∈ es, e.1 ∈ names → g e.1 = none) →
      fillFields names ds (names.map g)
        = some (names.map fun n => (g n).or ((es.lookup n).bind draftOf)) := by
  induction named with
  | nil =>
      intro g _
      simp [fillFields]
  | @cons d e ds es here _ ih =>
      obtain ⟨l, d⟩ := d
      obtain ⟨k, v⟩ := e
      obtain ⟨name, hd⟩ : Literal.text? l = some k ∧ draftOf v = some d := here
      obtain ⟨new, single⟩ := List.pairwise_cons.mp single
      intro g free
      have here : k ∈ names → g k = none := free (k, v) List.mem_cons_self
      rw [fillFields, name]
      simp only [fillField_map once here]
      rw [ih single fun e he known => ?_]
      · refine congrArg some (List.map_congr_left fun n known => ?_)
        rw [Members.lookup_cons]
        by_cases hn : n = k
        · subst hn
          simp [here known, hd]
        · simp [hn]
      · have other : e.1 ≠ k := fun same => new e he (same ▸ known) same.symm
        rw [if_neg other]
        exact free e (List.mem_cons_of_mem _ he) known

theorem eq_null_of_draft? {v : Json} (h : draft? v = some .null) : v = .null := by
  cases v <;> simp [draft?] at h ⊢

theorem optionalField_none {α : Type} {read : Draft → Option α} :
    optionalField read none = some none := rfl

theorem optionalField_of_ne {α : Type} {read : Draft → Option α} {d : Draft} (h : d ≠ .null) :
    optionalField read (some d) = (read d).map some := by
  cases d <;> first | rfl | exact absurd rfl h

def textAt (members : List (String × Json)) (n : String) : Option String :=
  (members.lookup n).bind str?

def valueAt (members : List (String × Json)) (n : String) : Option Json :=
  (members.lookup n).bind fun v => if v = .null then none else some v.tidy

theorem optionalField_text {n : String}
    (text : ∀ v, members.lookup n = some v → v = .null ∨ ∃ t, v = .str t) :
    optionalField Draft.str? ((members.lookup n).bind draft?) = some (textAt members n) := by
  rw [textAt]
  cases hv : members.lookup n with
  | none => rfl
  | some v =>
      rcases text v hv with rfl | ⟨t, rfl⟩
      · rfl
      · simp [draft?, optionalField, Draft.str?, str?]

theorem optionalField_value {n : String} (readable : Readable maxLevels (.obj members)) :
    optionalField Draft.inner? ((members.lookup n).bind draft?) = some (valueAt members n) := by
  rw [valueAt]
  cases hv : members.lookup n with
  | none => rfl
  | some v =>
      obtain ⟨before, after, rfl, _⟩ := List.lookup_eq_some_iff.mp hv
      obtain ⟨written, shallow⟩ := readable_obj.mp readable (n, v) (by simp)
      obtain ⟨d, hd⟩ := Option.isSome_iff_exists.mp written
      have value : d.inner? = some v.tidy := value?_draft hd shallow
      simp only [Option.bind_some, hd]
      by_cases hn : v = .null
      · subst hn
        cases hd
        rfl
      · have solid : d ≠ .null := by
          rintro rfl
          exact hn (eq_null_of_draft? hd)
        rw [optionalField_of_ne solid, value, if_neg hn]
        rfl

end Json

namespace Message

variable {members : List (String × Json)}

def Frame.textNames : List String := ["event", "msg", "connId", "action"]

theorem Frame.read?_text (distinct : Distinct members)
    (readable : Json.Readable Json.maxLevels (.obj members))
    (texts : ∀ n ∈ textNames, ∀ v, members.lookup n = some v → v = .null ∨ ∃ t, v = .str t) :
    Frame.read? (Json.obj members).text = some
      { event := Json.textAt members "event"
        arg := Json.valueAt members "arg"
        data := Json.valueAt members "data"
        code := Json.valueAt members "code"
        msg := Json.textAt members "msg"
        connId := Json.textAt members "connId"
        action := Json.textAt members "action" } := by
  obtain ⟨d, hd⟩ := Option.isSome_iff_exists.mp readable.1
  obtain ⟨ds, written, rfl⟩ := Option.map_eq_some_iff.mp hd
  have names : Frame.names.Nodup := by decide
  have fields := Json.fillFields_named names (Json.named_memberDrafts written)
    (distinct.single Frame.names) (g := fun _ => none) fun _ _ _ => rfl
  have text : ∀ n ∈ textNames, Json.optionalField Json.Draft.str?
      ((members.lookup n).bind Json.draft?) = some (Json.textAt members n) :=
    fun n hn => Json.optionalField_text (texts n hn)
  rw [Frame.read?, Json.toList_text, Json.Draft.read?_write hd, Option.bind_some,
    Json.Draft.fields?, fields]
  simp only [Option.none_or, Option.bind_some, Frame.names, List.map_cons, List.map_nil, ofFields?,
    text "event" (by decide), text "msg" (by decide), text "connId" (by decide),
    text "action" (by decide), Json.optionalField_value readable, Option.map_some]

end Message

namespace Number.Layout

theorem fixed_pointed (digits : List Char) (lead : Int) : '.' ∈ fixed digits lead := by
  rw [fixed]
  split
  · simp
  · dsimp only
    split <;> simp

theorem scientific_marked (plusSign : Bool) (digits : List Char) (lead : Int) :
    'e' ∈ scientific plusSign digits lead := by
  simp [scientific]

theorem render_marked (layout : Layout) (x : Binary64) :
    '.' ∈ layout.render x ∨ 'e' ∈ layout.render x := by
  rw [render]
  split
  · exact Or.inl (by simp)
  · dsimp only
    split
    · exact Or.inl (List.mem_append_right _ (fixed_pointed ..))
    · exact Or.inr (List.mem_append_right _ (scientific_marked ..))

end Number.Layout

namespace Json

theorem writeInt_zero {i : Int} (h : writeInt i = ['0']) : i = 0 := by
  rw [writeInt] at h
  split at h
  · cases h
  · have value := Number.ofNumeral?_digitsOf i.natAbs
    rw [h] at value
    have zero : Number.ofNumeral? 10 ['0'] = some 0 := by decide
    rw [zero] at value
    exact Int.natAbs_eq_zero.mp (Option.some.inj value).symm

theorem write_zero {v : Json} (h : v.write = ['0']) : v = .num (.int 0) := by
  cases v with
  | num n =>
      cases n with
      | int i => rw [writeInt_zero h]
      | real x =>
          have marked := Number.Layout.render_marked realLayout x
          have text : realLayout.render x = ['0'] := h
          rw [text] at marked
          exact absurd marked (by decide)
  | bool b => cases b <;> cases h
  | _ => cases h

end Json

namespace Message

theorem codeText_success {v : Json} :
    codeText v = successCode ↔ v = .str "0" ∨ v = .num (.int 0) := by
  have written : ∀ v : Json, v.text = successCode → v = .num (.int 0) := by
    intro v told
    refine Json.write_zero ?_
    rw [← Json.toList_text, told]
    rfl
  constructor
  · intro told
    cases v with
    | str s => exact Or.inl (congrArg Json.str told)
    | _ => exact Or.inr (written _ told)
  · rintro (rfl | rfl)
    · rfl
    · rfl

def Frame.IsClear (f : Frame) : Prop :=
  f.code = none ∨ f.code = some (.str "0") ∨ f.code = some (.num (.int 0))

theorem Frame.isClear_iff {f : Frame} :
    f.IsClear ↔ f.code.map codeText = none ∨ f.code.map codeText = some successCode := by
  rw [IsClear, Option.map_eq_none_iff, Option.map_eq_some_iff]
  refine or_congr_right ⟨?_, ?_⟩
  · rintro (code | code)
    · exact ⟨_, code, rfl⟩
    · exact ⟨_, code, rfl⟩
  · rintro ⟨v, code, told⟩
    rcases codeText_success.mp told with rfl | rfl
    · exact Or.inl code
    · exact Or.inr code

theorem exists_frame {content : String} {e : Event} (h : decode content = .ok (.event e)) :
    ∃ f, Frame.read? content = some f ∧ f.code.map codeText = e.code := by
  rw [decode] at h
  cases read : Frame.read? content with
  | none =>
      rw [read] at h
      cases h
  | some f =>
      rw [read] at h
      simp only [ofFrame] at h
      split at h
      · cases h
        exact ⟨f, rfl, rfl⟩
      · split at h
        · split at h <;> cases h
        · cases h

end Message

end MarketWire
