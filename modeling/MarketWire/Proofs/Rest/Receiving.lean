import MarketWire.Proofs.Rest.Reach
import MarketWire.Proofs.Rest.Signing

namespace MarketWire.Rest

open Header (values lowerName)

namespace Framing

variable {headers : List (String × String)} {body : List UInt8}

theorem lookup_eq (headers : List (String × String)) (name : String) :
    headers.lookup name = (values name headers).head? := by
  induction headers with
  | nil => rfl
  | cons h headers ih =>
      rw [List.lookup_cons, Header.values_cons]
      by_cases same : h.1 = name
      · simp [same]
      · rw [if_neg same, ← ih]
        have differ : (name == h.1) = false := by simpa using Ne.symm same
        rw [differ]

theorem length?_digits {n : Nat} (small : n < Number.twoTo 64) :
    length? (String.ofList (Number.digitsOf n)) = some n := by
  have plain : ∀ c ∈ Number.digitsOf n, c ≠ ',' ∧ Text.isBlank c = false ∧
      (0x20 ≤ c.toNat ∧ c.toNat < 0x7f) := by
    intro c hc
    have digit := Number.digitsOf_plain hc
    refine ⟨?_, ?_, by omega, by omega⟩
    · rintro rfl
      exact absurd digit.1 (by decide)
    · simp only [Text.isBlank]
      grind
  have single : Text.pieces (· == ',') (Number.digitsOf n) = [Number.digitsOf n] := by
    have rest : Text.pieces (· == ',') [] = [[]] := rfl
    have whole := Text.pieces_append_of_not (s := Number.digitsOf n)
      (fun c hc => by simpa using (plain c hc).1) rest
    simpa using whole
  have number : number? (Number.digitsOf n) = some n := by
    rw [number?, Text.stripEnds_of_not fun c hc => (plain c hc).2.1, Number.ofNumeral?_digitsOf,
      Option.bind_some, if_pos small]
  have printable : isPrintable (String.ofList (Number.digitsOf n)) = true := by
    rw [isPrintable, String.toList_ofList, List.all_eq_true]
    intro c hc
    have := (plain c hc).2.2
    simp [this]
  rw [length?, String.toList_ofList, single]
  simp [number, printable]

theorem received?_whole (length : values lengthName headers = [])
    (coding : values codingName headers = []) (small : body.length < Number.twoTo 64) :
    received? (sentHeaders headers body) body = some body := by
  have unset : headers.lookup lengthName = none := by rw [lookup_eq, length]; rfl
  have uncoded : headers.lookup codingName = none := by rw [lookup_eq, coding]; rfl
  have told : awaited (sentHeaders headers body) = body.length := by
    rw [awaited, ownLength?, sentHeaders]
    split
    · next empty =>
        rw [lookup_eq, Header.values_without (by decide), length]
        simp [List.isEmpty_iff.mp empty]
    · rw [headersWithBody, uncoded, ownLength?, unset]
      simp [lookup_eq, Header.values_set, Header.lowerName_lengthName, length?_digits small]
  rw [received?, told, if_pos (Nat.le_refl _), List.take_length]

end Framing

def Options.Unframed (o : Options) : Prop := ∀ h ∈ o.headers, ¬Header.Frames (lowerName h.1)

theorem Options.Unframed.configured {o : Options} {name : String} (h : o.Unframed)
    (frames : Header.Frames (lowerName name)) : Options.configured o.headers name = none := by
  rw [Options.configured, Option.map_eq_none_iff, List.find?_eq_none]
  intro d hd same
  rw [beq_iff_eq] at same
  exact h d (List.mem_reverse.mp hd) (same ▸ frames)

namespace Client

variable {o : Options} {c : Client} {call : Call} {k : Credentials} {timestamp : String}

theorem values_request (built : o.build = .ok c) (unframed : o.Unframed)
    (signer : call.signer = some k) {name : String} (frames : Header.Frames name)
    (lower : lowerName name = name) :
    values name (c.request call timestamp).headers = [] := by
  have own : values name (c.ownHeaders call timestamp) = [] := by
    rw [ownHeaders_signed signer, marks]
    rcases frames with rfl | rfl <;> cases c.simulated <;>
      simp [Framing.lengthName, Framing.codingName]
  have plain : values (lowerName name) Options.jsonHeaders = [] := by
    rcases frames with rfl | rfl <;> decide
  have defaults : values (lowerName name) c.defaults = _ := Options.values_defaults built plain
  rw [unframed.configured (lower.symm ▸ frames), lower] at defaults
  rw [request, Header.values_withDefaults, own, if_pos rfl, defaults]
  rfl

end Client

theorem Server.sees?_some {s : Server} {q : HttpRequest} {r : Received} (h : s.sees? q = some r) :
    ∃ u body, Url.parse? q.url = some u ∧
      Framing.received? q.sentHeaders (Text.Utf8.encode q.body) = some body ∧
      r = ⟨q.method, String.ofList u.target, q.sentHeaders.map fun h => (h.1, Header.received h.2),
        Text.Utf8.decode body⟩ := by
  obtain ⟨u, hu, h⟩ := Option.bind_eq_some_iff.mp h
  split at h
  · obtain ⟨body, hb, rfl⟩ := Option.map_eq_some_iff.mp h
    exact ⟨u, body, hu, hb, rfl⟩
  · cases h

def Received.carried (r : Received) (name : String) : List String :=
  values (lowerName name) r.headers

theorem Server.sees?_carried {s : Server} {q : HttpRequest} {r : Received}
    (h : s.sees? q = some r) (name : String) :
    r.carried name = (q.carried name).map Header.received := by
  obtain ⟨u, body, _, _, rfl⟩ := sees?_some h
  rw [Received.carried, HttpRequest.carried, values, values, List.filter_map, List.map_map,
    List.map_map]
  rfl

def Received.verifies (r : Received) (k : Credentials) : Bool :=
  match r.carried Signature.timestampHeader with
  | [at'] =>
      r.carried Signature.signHeader
        == [Signature.sign k.secretKey at' r.method.name r.target r.body]
  | _ => false

theorem received_encode (bytes : List UInt8) :
    Header.received (Digest.Base64.encode bytes) = Digest.Base64.encode bytes := by
  rw [Header.received, Digest.Base64.encode, String.toList_ofList,
    Text.stripEnd_of_not (Digest.Base64.isBlank_encodeChars bytes)]

def Options.Keeps (o : Options) (path : String) : Prop :=
  if '#' ∈ o.baseUrl.toList then Url.leads o.baseUrl = some path
  else Url.Canonical path.toList ∧ Url.leads o.baseUrl = some "/"

instance (o : Options) (path : String) : Decidable (o.Keeps path) :=
  inferInstanceAs (Decidable (if '#' ∈ o.baseUrl.toList then _ else _))

theorem Options.Keeps.query {o : Options} {path whole : String} {query : List (String × String)}
    (h : o.Keeps path) (uncrossed : '#' ∉ o.baseUrl.toList) (unmarked : '?' ∉ path.toList)
    (made : Client.requestPath path query = .ok whole) : o.Keeps whole := by
  rw [Options.Keeps, if_neg uncrossed] at h ⊢
  refine ⟨?_, h.2⟩
  rw [Client.requestPath] at made
  split at made
  · cases made
  · split at made
    · cases made
      exact h.1
    · cases made
      simpa using h.1.query_append unmarked

structure Receives (o : Options) (k : Credentials) (at' : String) (m : Method) (path body : String)
    (r : Received) : Prop where
  method : r.method = m
  signature : r.carried Signature.signHeader
    = [Signature.sign k.secretKey at' m.name path body]
  timestamp : r.carried Signature.timestampHeader = [Header.received at']
  canonical : Url.Canonical r.target.toList
  target : r.target = path ↔ o.Keeps path
  whole : o.Unframed → (Text.Utf8.encode body).length < Number.twoTo 64 → r.body = body
  verifies : r.target = path → r.body = body → Header.received at' = at' → r.verifies k = true

namespace Client

variable {o : Options} {c : Client} {ask : Ask} {call : Call} {n : Nat} {u w : Surroundings}
  {tries : List Try} {k : Credentials} {timestamp : String} {r : Received}

theorem sees?_receives (built : o.build = .ok c) (signer : call.signer = some k) {s : Server}
    (h : s.sees? (c.request call timestamp) = some r) :
    Receives o k timestamp call.method call.path call.body r := by
  have signed : (c.request call timestamp).SignedBy _ _ _ _ _ := request_signedBy signer
  have headers := Server.sees?_carried h
  have signature : r.carried Signature.signHeader
      = [Signature.sign k.secretKey timestamp call.method.name call.path call.body] := by
    rw [headers, signed.signature, List.map_singleton, received_encode, Signature.sign,
      Signature.signMessage, Signature.signedText, Method.upperCase_name]
  have stamped : r.carried Signature.timestampHeader = [Header.received timestamp] := by
    rw [headers, signed.timestamp, List.map_singleton]
  have verifies : r.target = call.path → r.body = call.body →
      Header.received timestamp = timestamp → r.verifies k = true := by
    have method : r.method = call.method := by
      obtain ⟨u, body, _, _, rfl⟩ := Server.sees?_some h
      rfl
    intro kept whole unblanked
    simp [Received.verifies, stamped, unblanked, signature, method, kept, whole]
  obtain ⟨u, body, parsed, arrived, rfl⟩ := Server.sees?_some h
  refine ⟨rfl, signature, stamped, ?_, ?_, fun unframed small => ?_, verifies⟩
  · rw [String.toList_ofList]
    exact Url.canonical_target parsed
  · rw [Options.Keeps, ← (Options.build_eq built).1]
    exact Url.target_append parsed
  · have whole : Framing.received? (c.request call timestamp).sentHeaders
        (Text.Utf8.encode call.body) = some (Text.Utf8.encode call.body) :=
      Framing.received?_whole
        (values_request built unframed signer (Or.inl rfl) Header.lowerName_lengthName)
        (values_request built unframed signer (Or.inr rfl) Header.lowerName_codingName) small
    have same : some (Text.Utf8.encode call.body) = some body := whole.symm.trans arrived
    rw [← Option.some.inj same]
    exact Text.Utf8.decode_encode _

theorem Course.seen (course : c.Course call n w tries u) :
    ∀ t ∈ tries, ∃ s : Server, t.seen = s.sees? t.request := by
  have first : ∀ w : Surroundings, ∃ s : Server,
      (c.tried call w).seen = s.sees? (c.tried call w).request :=
    fun w => ⟨w.server, by simp only [tried]⟩
  induction course with
  | @ended n w final =>
      intro t ht
      rw [List.mem_singleton.mp ht]
      exact first w
  | @again n u v w tries _ _ _ ih =>
      intro t ht
      rcases List.mem_cons.mp ht with rfl | ht
      · exact first w
      · exact ih t ht

theorem attempts_received (built : o.build = .ok c) (asked : ask.call? c = .ok call)
    (isPrivate : ask.isPrivate = true) :
    (∃ k path, o.credentials = some k ∧ ask.path? = .ok path ∧
      ∀ {n w tries u}, c.Course call n w tries u → ∀ i (t : Try) r, tries[i]? = some t →
        t.seen = some r →
          Receives o k (w.timestamps.text (w.timestamps.drawn + i)) ask.method path ask.body r) ∧
      ∀ {α : Type} (decode : Json → Option α) (w : Surroundings), ∃ tries,
        c.Course call o.retry.maxRetries w tries (c.perform decode (ask.call? c) w).2 ∧
          (c.perform decode (ask.call? c) w).2.server.received
            = w.server.received ++ tries.filterMap Try.seen := by
  have asks := asks_of_call? asked
  obtain ⟨k, credentials, signer⟩ := asks.signed isPrivate
  refine ⟨⟨k, call.path, ?_, asks.path, fun {n w tries u} course i t r ht hr => ?_⟩,
    fun decode w => ?_⟩
  · rw [← (Options.build_eq built).2.2.2.1, credentials]
  · obtain ⟨s, sees⟩ := course.seen t (List.mem_of_getElem? ht)
    rw [sees, (course.stamped signer).2 i t ht] at hr
    have receives := sees?_receives built signer hr
    rwa [asks.method, asks.body] at receives
  · rw [← (Options.build_eq built).2.2.1]
    exact perform_course asked decode w

theorem forging_received :
    forging.build = .ok forger ∧ placing.call? forger = .ok placed ∧ placing.isPrivate = true ∧
      forging.Keeps "/p" ∧ ∃ tries u, forger.Course placed 1 busy tries u ∧
        ((tries.filterMap Try.seen).map fun r => (r.target, r.body))
          = [("/p", "\x7b\"a\":\"b\"\x7d"), ("/p", "\x7b\"a\":\"b\"\x7d")] ∧
        ∃ k, forging.credentials = some k ∧ ∀ i (t : Try) r, tries[i]? = some t → t.seen = some r →
          Receives forging k (busy.timestamps.text (busy.timestamps.drawn + i)) .post "/p"
            "\x7b\"a\":\"b\"\x7d" r := by
  have built : forging.build = .ok forger := rfl
  have asked : placing.call? forger = .ok placed := rfl
  have keeps : forging.Keeps "/p" := by decide +kernel
  have arrived : (forger.perform serverTimes? (placing.call? forger) busy).2.server.received.map
      (fun r => (r.target, r.body))
        = [("/p", "\x7b\"a\":\"b\"\x7d"), ("/p", "\x7b\"a\":\"b\"\x7d")] := by decide +kernel
  obtain ⟨⟨k, path, credentials, named, receives⟩, performed⟩ :=
    attempts_received built asked rfl
  obtain ⟨tries, course, received⟩ := performed serverTimes? busy
  cases named
  rw [received] at arrived
  exact ⟨built, asked, rfl, keeps, tries, _, course, arrived, k, credentials, receives course⟩

def signing : Options :=
  { Options.ofEndpoint (Endpoint.live.withRestUrl "http://[::1]") with
    credentials := some ⟨"key", "secret", "pass"⟩ }

def signingClient : Client :=
  ⟨"http://[::1]", false, Options.jsonHeaders, Retry.standard, some ⟨"key", "secret", "pass"⟩⟩

def reading : Ask := .privateGet "/a b" []

def idle : Surroundings :=
  ⟨⟨["t0"], 0⟩, ⟨⟨.v6 [0, 0, 0, 0, 0, 0, 0, 1], 80⟩, true, [], []⟩⟩

theorem reading_unverified :
    signing.build = .ok signingClient ∧
      ∃ call r, reading.call? signingClient = .ok call ∧ call.path = "/a b" ∧
        (signingClient.perform serverTimes? (reading.call? signingClient) idle).2.server.received
          = [r] ∧
        r.target = "/a%20b" ∧ r.verifies ⟨"key", "secret", "pass"⟩ = false := by
  have arrived : (signingClient.perform serverTimes? (reading.call? signingClient)
      idle).2.server.received.map (fun r => (r.target, r.verifies ⟨"key", "secret", "pass"⟩))
        = [("/a%20b", false)] := by decide +kernel
  obtain ⟨r, received, told⟩ := List.map_eq_singleton_iff.mp arrived
  obtain ⟨target, unverified⟩ := Prod.mk.inj told
  exact ⟨rfl, _, r, rfl, rfl, received, target, unverified⟩

end Client

end MarketWire.Rest
