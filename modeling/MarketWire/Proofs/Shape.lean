import MarketWire.Proofs.Json.Joining
import MarketWire.Proofs.Message
import MarketWire.Proofs.Routing
import MarketWire.Stream.Session.Attempt

namespace MarketWire

open Json (Draft)

namespace Json

def isObject (text : String) : Bool :=
  match Draft.read? text.toList with
  | some (.obj _) => true
  | _ => false

def items? (text : String) : Option (List Draft) :=
  match Draft.read? text.toList with
  | some (.arr items) => some items
  | _ => none

variable {names : List String} {items : List Draft}

theorem placeFields_none (long : names.length < items.length) : placeFields names items = none := by
  induction names generalizing items with
  | nil =>
      cases items with
      | nil => simp at long
      | cons => rfl
  | cons n names ih =>
      cases items with
      | nil => simp at long
      | cons d items =>
          rw [placeFields, ih (by simpa using long)]
          rfl

theorem placeFields_zip (once : names.Nodup) (short : items.length ≤ names.length) :
    placeFields names items = some (names.map fun n => (names.zip items).lookup n) := by
  induction names generalizing items with
  | nil =>
      cases items with
      | nil => rfl
      | cons => simp at short
  | cons n names ih =>
      obtain ⟨new, once⟩ := List.nodup_cons.mp once
      cases items with
      | nil =>
          rw [placeFields, ih once (Nat.zero_le _)]
          simp
      | cons d items =>
          rw [placeFields, ih once (by simpa using short)]
          refine congrArg some ?_
          rw [List.zip_cons_cons, List.map_cons, Members.lookup_cons, if_pos rfl]
          refine congrArg (some d :: ·) (List.map_congr_left fun m hm => ?_)
          have other : m ≠ n := fun same => new (same ▸ hm)
          rw [Members.lookup_cons, if_neg other]

theorem zip_distinct (once : names.Nodup) : Members.Distinct (names.zip items) := by
  rw [Members.Distinct, List.zip_eq_zip_take_min, List.map_fst_zip (by simp)]
  exact once.sublist (List.take_sublist _ _)

theorem fields?_arr (once : names.Nodup) (short : items.length ≤ names.length) :
    Draft.fields? names (.arr items) = Draft.fields? names (.obj (named (names.zip items))) := by
  rw [Draft.fields?, Draft.fields?, placeFields_zip once short,
    fillFields_named once (named_some _) ((zip_distinct once).single names) (g := fun _ => none)
      fun _ _ _ => rfl]
  simp only [Option.none_or, Option.bind_fun_some]

end Json

namespace Message

def ofDraft (raw : String) (d : Draft) : Except Fault Message :=
  match (d.fields? Frame.names).bind Frame.ofFields? with
  | some f => ofFrame raw f
  | none => .error .json

theorem decode_eq (text : String) :
    decode text
      = match Draft.read? text.toList with
        | some d => ofDraft text d
        | none => .error .json := by
  rw [decode, Frame.read?]
  cases Draft.read? text.toList <;> rfl

structure Unheard (text : String) : Prop where
  delivered : ∀ forward r, ∃ fault,
    Router.route forward r text = (r, .deliver (unreadable text fault))
  passed : ∀ {s s' : Stream.Session} {n : Nat}, s.nextArrival n = some (.text text, s') →
    ∀ deadline, s.attemptStep (.loggingIn n deadline) .read
      = some (s', .more (.loggingIn n deadline))

theorem kind_of_decode {text : String} {e : Event} (h : decode text = .ok (.event e)) :
    e.kind ≠ .parseError := by
  have named : ∀ name, Kind.ofName name ≠ .parseError := by
    intro name
    rw [Kind.ofName]
    split_ifs <;> simp
  rw [decode] at h
  split at h
  · rw [ofFrame] at h
    split at h
    · cases h
      exact named _
    · split at h
      · split at h <;> cases h
      · cases h
  · cases h

theorem unheard_iff {text : String} (other : text ≠ Router.pong) :
    Unheard text ↔ ∃ fault, decode text = .error fault := by
  constructor
  · rintro ⟨delivered, -⟩
    obtain ⟨fault, routed⟩ := delivered true Registry.empty
    cases decoded : decode text with
    | error fault => exact ⟨fault, rfl⟩
    | ok m =>
        have raw : ∀ e, m = .event e → e.raw = text := by
          rintro e rfl
          exact raw_of_decode decoded
        have fate : Router.Fate true text (.deliver m) := .delivered decoded (fun _ => rfl) raw
        have same := fate.route Registry.empty
        rw [routed] at same
        cases same
        exact absurd rfl (kind_of_decode decoded)
  · rintro ⟨fault, unread⟩
    refine ⟨fun forward r => ⟨fault, ?_⟩, fun arrival deadline => ?_⟩
    · rw [Router.route, if_neg other, unread]
    · simp only [Stream.Session.attemptStep, arrival, Option.map_some,
        Stream.Session.onLoginArrival, Stream.Session.loginVerdict, unread]

theorem shape_heard {text : String} (other : text ≠ Router.pong)
    (shape : Json.isObject text = false) :
    ((∀ items ∈ Json.items? text, Frame.names.length < items.length) → Unheard text) ∧
    ∀ items ∈ Json.items? text, items.length ≤ Frame.names.length →
      decode text = ofDraft text (.obj (Json.named (Frame.names.zip items))) ∧
      (Unheard text ↔
        ∃ fault, ofDraft text (.obj (Json.named (Frame.names.zip items))) = .error fault) := by
  rw [unheard_iff other, decode_eq]
  rw [Json.isObject] at shape
  rw [Json.items?]
  cases read : Draft.read? text.toList with
  | none => exact ⟨fun _ => ⟨_, rfl⟩, fun _ hi => by cases hi⟩
  | some d =>
      rw [read] at shape
      cases d with
      | obj => cases shape
      | arr items =>
          refine ⟨fun long => ⟨.json, ?_⟩, fun items' hi short => ?_⟩
          · simp only [ofDraft, Draft.fields?, Json.placeFields_none (long items rfl)]
            rfl
          · cases hi
            have names : Frame.names.Nodup := by decide
            have same : ofDraft text (.arr items)
                = ofDraft text (.obj (Json.named (Frame.names.zip items))) := by
              simp only [ofDraft, Json.fields?_arr names short]
            exact ⟨same, by simp only [same]⟩
      | _ => exact ⟨fun _ => ⟨.json, rfl⟩, fun _ hi => by cases hi⟩

def zeros : String := "[0, 0, 0, 0, 0, 0, 0, 0]"

theorem zeros_unheard :
    zeros ≠ Router.pong ∧ Json.isObject zeros = false ∧
      (∀ items ∈ Json.items? zeros, Frame.names.length < items.length) ∧ Unheard zeros := by
  have other : zeros ≠ Router.pong := by decide
  have shape : Json.isObject zeros = false := by decide +kernel
  have long : ∀ items ∈ Json.items? zeros, Frame.names.length < items.length := by decide +kernel
  exact ⟨other, shape, long, (shape_heard other shape).1 long⟩

def bareAck : String := "[\"subscribe\",\x7b\"channel\":\"tickers\"\x7d]"

def bareLogin : String := "[\"login\"]"

theorem bare_heard :
    (Json.isObject bareAck = false ∧ bareAck ≠ Router.pong ∧
      (Router.route true (Registry.empty.add (.plain "tickers")).1 bareAck).1.isConfirmed
        (.plain "tickers") = true) ∧
      Json.isObject bareLogin = false ∧ bareLogin ≠ Router.pong ∧
      Stream.Session.loginVerdict bareLogin = some (.ok ()) ∧ ¬Unheard bareLogin := by
  have decoded : decode bareLogin = .ok (.event ⟨.login, none, none, none, none, bareLogin⟩) := by
    decide +kernel
  have other : bareLogin ≠ Router.pong := by decide
  refine ⟨by decide +kernel, by decide +kernel, other, ?_, ?_⟩
  · simp [Stream.Session.loginVerdict, decoded, Event.isSuccess]
  · rw [unheard_iff other, decoded]
    rintro ⟨fault, unread⟩
    cases unread

end Message

end MarketWire
