import MarketWire.Proofs.Acknowledgement
import MarketWire.Proofs.Message
import MarketWire.Proofs.Subscription
import MarketWire.Stream.Request

namespace MarketWire

open Channel (Subscription Params)
open Members (Distinct)

namespace Channel.Subscription

variable {s : Subscription}

inductive Named : Subscription → Prop where
  | tickers (instId : String) : Named (.tickers instId)
  | trades (instId : String) : Named (.trades instId)
  | candles (instId : String) (interval : Interval) : Named (.candles instId interval)
  | books (instId : String) (depth : Depth) : Named (.books instId depth)
  | markPrice (instId : String) : Named (.markPrice instId)
  | indexTickers (instId : String) : Named (.indexTickers instId)
  | fundingRate (instId : String) : Named (.fundingRate instId)
  | account (ccy : Option String) : Named (.account ccy)
  | positions (instType : String) (instId : Option String) : Named (.positions instType instId)
  | orders (instType : String) (instId : Option String) : Named (.orders instType instId)
  | ordersAlgo (instType : String) (instId : Option String) : Named (.ordersAlgo instType instId)
  | balanceAndPosition : Named .balanceAndPosition

theorem param_withParam {n m v : String} (hn : n ≠ m) : (s.withParam m v).param n = s.param n :=
  Params.find?_insert.trans (if_neg hn)

theorem param_withOptionalParam {n m : String} {v : Option String} (hn : n ≠ m) :
    (s.withOptionalParam m v).param n = s.param n := by
  cases v with
  | none => rfl
  | some v => exact param_withParam hn

theorem Named.param (h : Named s) : s.param channelName = none := by
  have instrument : channelName ≠ instrument := by decide
  have ofInstrument : ∀ channel v, ((plain channel).withParam Subscription.instrument v).param
      channelName = none := fun _ _ => param_withParam instrument
  have ofType : ∀ channel instType instId,
      (ofInstrumentType channel instType instId).param channelName = none :=
    fun _ _ _ => (param_withOptionalParam instrument).trans (param_withParam (by decide))
  cases h with
  | account ccy => exact param_withOptionalParam (by decide)
  | positions instType instId | orders instType instId | ordersAlgo instType instId =>
      exact ofType _ _ _
  | balanceAndPosition => rfl
  | _ => exact ofInstrument _ _

end Channel.Subscription

namespace Stream.Request

theorem read?_args {r : Request} {subs : List Subscription}
    (args : r.args = subs.map Subscription.toJson) :
    (Json.read? r.text).bind (Json.find? "args")
      = some (.arr (subs.map fun s => Json.object (Json.texts s.members))) := by
  have readable : Json.Readable Json.maxLevels r.toJson := by
    simp [toJson, args, Json.maxLevels, Subscription.readable_toJson]
  have items : Json.tidy (.arr r.args)
      = .arr (subs.map fun s => Json.object (Json.texts s.members)) := by
    rw [Json.tidy, Json.tidyItems_eq, args, List.map_map]
    exact congrArg Json.arr (List.map_congr_left fun s _ => Subscription.tidy_toJson)
  rw [text, Json.read?_text readable, Option.bind_some, toJson, Json.tidy, Json.object, Json.find?,
    Members.lookup_ofList, ← items]
  rfl

end Stream.Request

namespace Router

variable {s : Subscription} {ms ns : List (String × Json)} {content : String}

def Confirms (content : String) (s : Subscription) : Prop :=
  ∀ forward r, (route forward r content).1 = (r.confirm s).1 ∧
    ∀ x, (route forward r content).1.isConfirmed x = true ↔
      r.isConfirmed x = true ∨ x = s ∧ r.contains s = true

theorem Acknowledges.confirms (h : Acknowledges content s) : Confirms content s := by
  refine fun forward r => ⟨h.route, fun x => ?_⟩
  rw [h.route, Registry.isConfirmed_confirm]

theorem acknowledges_of_arg {f : Message.Frame} {arg : Json}
    (read : Message.Frame.read? content = some f) (event : f.event = some "subscribe")
    (found : f.arg = some arg) (taken : Subscription.ofArg? arg = some s) :
    Acknowledges content s := by
  refine ⟨⟨.subscribe, some s, f.code.map Message.codeText, f.msg, f.connId, content⟩, ?_, rfl, rfl⟩
  simp [Message.decode, read, Message.ofFrame, event, found, taken, Message.Kind.ofName]

structure Receipt (ns ms : List (String × Json)) : Prop where
  distinct : Distinct ms
  readable : Json.Readable Json.maxLevels (.obj ms)
  texts : ∀ n ∈ Message.Frame.textNames, ∀ v, ms.lookup n = some v → v = .null ∨ ∃ t, v = .str t
  event : ms.lookup "event" = some (.str "subscribe")
  arg : ms.lookup "arg" = some (.obj ns)

theorem Receipt.acknowledges (h : Receipt ns ms) (distinct : Distinct ns)
    (taken : Subscription.ofArg? (.obj ns) = some s) : Acknowledges (Json.obj ms).text s := by
  have event : Json.textAt ms "event" = some "subscribe" := by rw [Json.textAt, h.event]; rfl
  have arg : Json.valueAt ms "arg" = some (Json.tidy (.obj ns)) := by
    rw [Json.valueAt, h.arg]
    rfl
  refine acknowledges_of_arg (Message.Frame.read?_text h.distinct h.readable h.texts) event arg ?_
  rw [Subscription.ofArg?_tidy distinct, taken]

end Router

namespace Channel.Subscription

variable {s : Subscription}

theorem Echoes.taken {ns : List (String × Json)} (echo : Echoes (Json.texts s.members) ns)
    (unnamed : s.param channelName = none) : Subscription.ofArg? (.obj ns) = some s := by
  rw [echo.ofArg?, ← ofArg?_object echo.distinct]
  exact ofArg?_members.mpr unnamed

theorem read?_object (unnamed : s.param channelName = none) :
    read? (Json.object (Json.texts s.members)).text = some s := by
  have distinct := (Members.sorted_ofList s.members).distinct
  rw [Json.object_texts, read?_texts, ofTexts?_eq_ofArg? distinct, ← Json.object_texts]
  exact ofArg?_members.mpr unnamed

theorem wire_faithful :
    (∀ s : Subscription,
      (read? s.wireText = some s ↔ s.param channelName = none) ∧
      ((Json.read? s.wireText).bind ofArg? = some s ↔ s.param channelName = none)) ∧
    (∀ s, Named s → s.param channelName = none) ∧
    (∀ text s, read? text = some s →
      (Json.read? text).bind ofArg? = some s ∧ read? s.wireText = some s) ∧
    (∀ ms ns, Echoes ms ns →
      ofArg? (.obj ns) = ofArg? (.obj ms) ∧ ofArg? (Json.object ns) = ofArg? (Json.object ms)) ∧
    (∀ subs : List Subscription, (∀ s ∈ subs, s.param channelName = none) →
      ∀ r, r = Stream.Request.subscribe subs ∨ r = Stream.Request.unsubscribe subs →
        ∃ items, (Json.read? r.text).bind (Json.find? "args") = some (.arr items) ∧
          items.map ofArg? = subs.map some ∧
          items.map (fun item => read? item.text) = subs.map some) ∧
    (∀ s ns, s.param channelName = none → Echoes (Json.texts s.members) ns →
      (∀ content f, Message.Frame.read? content = some f → f.event = some "subscribe" →
        f.arg = some (.obj ns) → Router.Confirms content s) ∧
      ∀ ms, Router.Receipt ns ms → Router.Confirms (Json.obj ms).text s) := by
  refine ⟨fun s => ⟨read?_wireText, ofArg?_wireText⟩, fun _ => Named.param, ?_, ?_, ?_, ?_⟩
  · intro text s taken
    obtain ⟨value, unnamed⟩ := ofArg?_of_read? taken
    exact ⟨value, read?_wireText.mpr unnamed⟩
  · intro ms ns echo
    refine ⟨echo.ofArg?, ?_⟩
    rw [ofArg?_object echo.1, ofArg?_object echo.distinct, echo.ofArg?]
  · intro subs unnamed r asks
    have args : r.args = subs.map Subscription.toJson := by
      rcases asks with rfl | rfl <;> rfl
    refine ⟨_, Stream.Request.read?_args args, ?_, ?_⟩
    · rw [List.map_map]
      exact List.map_congr_left fun s hs => ofArg?_members.mpr (unnamed s hs)
    · rw [List.map_map]
      exact List.map_congr_left fun s hs => read?_object (unnamed s hs)
  · intro s ns unnamed echo
    have taken := echo.taken unnamed
    refine ⟨fun content f read event arg => ?_, fun ms receipt => ?_⟩
    · exact (Router.acknowledges_of_arg read event arg taken).confirms
    · exact (receipt.acknowledges echo.1 taken).confirms

def echoed : List (String × Json) :=
  [("instId", .str "BTC-USDT"), ("fresh", .bool true), ("channel", .str "tickers")]

def receipt : List (String × Json) :=
  [("arg", .obj echoed), ("event", .str "subscribe"), ("connId", .str "a4d3ae55")]

theorem receipt_faithful :
    Echoes (Json.texts (tickers "BTC-USDT").members) echoed ∧ Router.Receipt echoed receipt ∧
      Router.Confirms (Json.obj receipt).text (tickers "BTC-USDT") := by
  have echo : Echoes (Json.texts (tickers "BTC-USDT").members) echoed := by
    refine ⟨by unfold Distinct; decide, [("fresh", .bool true)], by decide +kernel, ?_⟩
    simp [Json.str?]
  have receives : Router.Receipt echoed receipt := by
    refine ⟨by unfold Distinct; decide, ⟨rfl, by decide⟩, ?_, rfl, rfl⟩
    intro n hn v hv
    simp only [Message.Frame.textNames, List.mem_cons, List.not_mem_nil, or_false] at hn
    rcases hn with rfl | rfl | rfl | rfl <;> cases hv <;> exact Or.inr ⟨_, rfl⟩
  obtain ⟨_, named, _, _, _, routed⟩ := wire_faithful
  exact ⟨echo, receives, (routed _ _ (named _ (.tickers _)) echo).2 _ receives⟩

end Channel.Subscription

end MarketWire
