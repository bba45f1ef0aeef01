import MarketWire.Proofs.Json.Joining
import MarketWire.Proofs.Message

namespace MarketWire

open Channel (Subscription)
open Json (Draft Reads Spells)

namespace Json

theorem value?_null {levels : Nat} {d : Draft} : d.value? levels = some .null ↔ d = .null := by
  constructor
  · intro h
    cases d with
    | null => rfl
    | arr items => cases levels <;> simp [Draft.value?] at h
    | obj members => cases levels <;> simp [Draft.value?, object] at h
    | _ => simp [Draft.value?] at h
  · rintro rfl
    rw [Draft.value?]

theorem optionalField_inner {d : Draft} {v : Json} (h : d.inner? = some v) :
    optionalField Draft.inner? (some d) = some (if v = .null then none else some v) := by
  by_cases hd : d = .null
  · subst hd
    cases h
    rfl
  · have solid : v ≠ .null := by
      rintro rfl
      exact hd (value?_null.mp h)
    rw [optionalField_of_ne hd, h, if_neg solid, Option.map_some]

end Json

namespace Message

structure Push where
  arg : Draft
  content : Draft
  action : Option Draft
  others : List (String × Draft)
  about : Json
  channel : String
  value : Json
  mark : Option String
  arg_value : arg.inner? = some about
  arg_channel : about.find? Subscription.channelName = some (.str channel)
  content_value : content.inner? = some value
  action_text : Json.optionalField Draft.str? action = some mark
  others_unknown : ∀ m ∈ others, m.1 ∉ Frame.names

namespace Push

variable {p : Push} {parts : List (String × Draft)} {text : String}

def known (p : Push) : List (String × Draft) :=
  ("arg", p.arg) :: ("data", p.content) :: (p.action.map fun d => ("action", d)).toList

def members (p : Push) : List (String × Draft) := p.known ++ p.others

theorem members_single (p : Push) : Members.Single Frame.names p.members := by
  refine Members.Distinct.single_append ?_ p.others_unknown
  rw [known]
  cases p.action with
  | none => exact (by decide : ["arg", "data"].Nodup)
  | some d => exact (by decide : ["arg", "data", "action"].Nodup)

theorem lookup_of_perm (order : parts.Perm p.members) {n : String} (field : n ∈ Frame.names) :
    parts.lookup n = p.known.lookup n := by
  have single := p.members_single
  have absent : p.others.lookup n = none := by
    refine Members.lookup_eq_none.mpr fun found => ?_
    obtain ⟨m, hm, rfl⟩ := List.mem_map.mp found
    exact p.others_unknown m hm field
  have same : parts.lookup n = p.members.lookup n := by
    refine Option.ext fun d => ?_
    rw [(single.perm order).lookup_eq_some field, single.lookup_eq_some field, order.mem_iff]
  rw [same, members, List.lookup_append, absent, Option.or_none]

theorem lookup_known (p : Push) (n : String) :
    p.known.lookup n
      = if n = "arg" then some p.arg
        else if n = "data" then some p.content
        else if n = "action" then p.action
        else none := by
  rw [known, Members.lookup_cons, Members.lookup_cons]
  cases p.action with
  | none => simp
  | some d => simp [Members.lookup_cons]

theorem read?_text (order : parts.Perm p.members) (reads : Reads text parts) :
    Frame.read? text = some
      { event := none
        arg := some p.about
        data := if p.value = .null then none else some p.value
        code := none
        msg := none
        connId := none
        action := p.mark } := by
  obtain ⟨ds, draft, named⟩ := reads
  have names : Frame.names.Nodup := by decide
  have fields := Json.fillFields_named names named (p.members_single.perm order)
    (g := fun _ => none) fun _ _ _ => rfl
  have found : (Frame.names.map fun n => none.or ((parts.lookup n).bind some))
      = Frame.names.map fun n => p.known.lookup n := by
    refine List.map_congr_left fun n field => ?_
    rw [Option.none_or, Option.bind_fun_some, lookup_of_perm order field]
  have about : p.about ≠ .null := by
    intro null
    have channel := p.arg_channel
    rw [null] at channel
    cases channel
  have arg := Json.optionalField_inner p.arg_value
  rw [if_neg about] at arg
  have content := Json.optionalField_inner p.content_value
  rw [Frame.read?, draft, Option.bind_some, Json.Draft.fields?, fields, found]
  simp [Frame.names, lookup_known, Frame.ofFields?, arg, content, p.action_text,
    Json.optionalField_none]

theorem exists_arg (p : Push) : ∃ s, Subscription.ofArg? p.about = some s := by
  have channel := p.arg_channel
  cases about : p.about with
  | obj members =>
      rw [about] at channel
      simp [Subscription.ofArg?, channel, Json.str?]
  | _ =>
      rw [about] at channel
      cases channel

theorem keeps_records (p : Push) {parts : List (String × Draft)} (order : parts.Perm p.members) :
    (∀ members, Spells members parts → Reads (Json.objectText members) parts) ∧
    ∃ s, Subscription.ofArg? p.about = some s ∧
      ∀ text, Reads text parts →
        (∀ items, p.value = .arr items → decode text = .ok (.data ⟨s, p.mark, items⟩)) ∧
        (p.value ≠ .null → (∀ items, p.value ≠ .arr items) →
          decode text = .ok (.data ⟨s, p.mark, [p.value]⟩)) ∧
        (p.value = .null → decode text = .error .neither) := by
  obtain ⟨s, told⟩ := p.exists_arg
  refine ⟨fun members spelled => Json.reads_objectText spelled, s, told, fun text reads => ?_⟩
  have frame := read?_text order reads
  have content : p.value ≠ .null →
      decode text = .ok (.data ⟨s, p.mark, recordsOf p.value⟩) := by
    intro solid
    rw [if_neg solid] at frame
    simp only [decode, frame, ofFrame, told]
  refine ⟨fun items arr => ?_, fun solid single => ?_, fun null => ?_⟩
  · have solid : p.value ≠ .null := by simp [arr]
    rw [content solid, arr, recordsOf]
  · rw [content solid, recordsOf.eq_3 p.value single solid]
  · rw [if_pos null] at frame
    simp only [decode, frame, ofFrame]

def tradesTexts : List (String × String) := [
  ("seq", "7"), ("action", "\"update\""), ("data", "[\x7b\"px\": 1.5\x7d, -2]"),
  ("arg", " \x7b\"channel\":\"trades\"\x7d")]

def trades : Push where
  arg := Draft.ofText " \x7b\"channel\":\"trades\"\x7d"
  content := Draft.ofText "[\x7b\"px\": 1.5\x7d, -2]"
  action := some (Draft.ofText "\"update\"")
  others := [("seq", Draft.ofText "7")]
  about := .obj [("channel", .str "trades")]
  channel := "trades"
  value := .arr [.obj [("px", .num (.real ⟨false, 6755399441055744, -52⟩))], .num (.int (-2))]
  mark := some "update"
  arg_value := by decide +kernel
  arg_channel := by decide +kernel
  content_value := by decide +kernel
  action_text := by decide +kernel
  others_unknown := by simp [Frame.names]

theorem keeps_records_trades :
    trades.members.reverse.Perm trades.members ∧ Spells tradesTexts trades.members.reverse ∧
      decode (Json.objectText tradesTexts) = .ok (.data ⟨.plain "trades", some "update",
        [.obj [("px", .num (.real ⟨false, 6755399441055744, -52⟩))], .num (.int (-2))]⟩) := by
  have order := List.reverse_perm trades.members
  have texts : trades.members.reverse = tradesTexts.map fun m => (m.1, Draft.ofText m.2) := by
    simp [members, known, trades, tradesTexts]
  have spelled : Spells tradesTexts trades.members.reverse := by
    rw [texts]
    exact Json.spells_ofText (by decide +kernel)
  obtain ⟨reads, s, told, kept⟩ := keeps_records trades order
  have plain : Subscription.ofArg? trades.about = some (.plain "trades") := by decide +kernel
  cases told.symm.trans plain
  exact ⟨order, spelled, (kept _ (reads _ spelled)).1 _ rfl⟩

def silenceTexts : List (String × String) := [
  ("arg", "\x7b\"channel\":\"tickers\"\x7d"), ("data", "null")]

def silence : Push where
  arg := Draft.ofText "\x7b\"channel\":\"tickers\"\x7d"
  content := Draft.ofText "null"
  action := none
  others := []
  about := .obj [("channel", .str "tickers")]
  channel := "tickers"
  value := .null
  mark := none
  arg_value := by decide +kernel
  arg_channel := by decide +kernel
  content_value := by decide +kernel
  action_text := by decide +kernel
  others_unknown := by simp

theorem silence_unread :
    Spells silenceTexts silence.members ∧ silence.value = .null ∧
      decode (Json.objectText silenceTexts) = .error .neither ∧
      decode (Json.objectText silenceTexts) ≠ .ok (.data ⟨.plain "tickers", none, []⟩) := by
  have texts : silence.members = silenceTexts.map fun m => (m.1, Draft.ofText m.2) := by
    simp [members, known, silence, silenceTexts]
  refine ⟨?_, rfl, by decide +kernel, by decide +kernel⟩
  rw [texts]
  exact Json.spells_ofText (by decide +kernel)

end Push

end Message

end MarketWire
