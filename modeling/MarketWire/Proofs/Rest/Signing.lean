import MarketWire.Proofs.Rest.Course

namespace MarketWire.Rest

open Header (values lowerName)

def Options.configured (headers : List (String × String)) (name : String) : Option String :=
  (headers.reverse.find? fun h => lowerName h.1 == lowerName name).map Prod.snd

namespace Options

variable {o : Options} {c : Client} {name : String}

theorem configured_cons (h : String × String) (headers : List (String × String)) :
    configured (h :: headers) name
      = (configured headers name).or
        (if lowerName h.1 = lowerName name then some h.2 else none) := by
  rw [configured, configured, List.reverse_cons, List.find?_append]
  by_cases same : lowerName h.1 = lowerName name
  · cases (headers.reverse.find? fun h => lowerName h.1 == lowerName name) <;> simp [same]
  · cases (headers.reverse.find? fun h => lowerName h.1 == lowerName name) <;> simp [same]

theorem addHeader_ok {defaults ds : List (String × String)} {h : String × String}
    (added : addHeader defaults h = .ok ds) : ds = Header.set defaults h.1 h.2 := by
  rw [addHeader] at added
  split at added
  · cases added
  · split at added
    · cases added
    · cases added
      rfl

theorem values_addHeaders {headers defaults ds : List (String × String)}
    (added : headers.foldlM addHeader defaults = .ok ds) :
    values (lowerName name) ds
      = ((configured headers name).map ([·])).getD (values (lowerName name) defaults) := by
  induction headers generalizing defaults with
  | nil =>
      cases added
      rfl
  | cons h headers ih =>
      cases first : addHeader defaults h with
      | error e => simp [List.foldlM_cons, first, bind, Except.bind] at added
      | ok mid =>
          simp only [List.foldlM_cons, first, bind, Except.bind] at added
          rw [ih added, configured_cons, addHeader_ok first, Header.values_set]
          cases configured headers name with
          | some value => rfl
          | none => by_cases same : lowerName h.1 = lowerName name <;> simp [same]

theorem build_eq (built : o.build = .ok c) :
    c.baseUrl = o.baseUrl ∧ c.simulated = o.simulated ∧ c.retry = o.retry ∧
      c.credentials = o.credentials ∧ o.headers.foldlM addHeader jsonHeaders = .ok c.defaults := by
  rw [build] at built
  cases added : o.headers.foldlM addHeader jsonHeaders with
  | error e => simp [added, Except.map] at built
  | ok ds =>
      simp only [added, Except.map, Except.ok.injEq] at built
      subst built
      exact ⟨rfl, rfl, rfl, rfl, rfl⟩

theorem values_defaults (built : o.build = .ok c)
    (plain : values (lowerName name) jsonHeaders = []) :
    values (lowerName name) c.defaults = (configured o.headers name).toList := by
  obtain ⟨_, _, _, _, added⟩ := build_eq built
  rw [values_addHeaders added, plain]
  cases configured o.headers name <;> rfl

end Options

namespace Client

variable {o : Options} {c : Client} {call : Call} {name timestamp : String}

theorem carried_request (c : Client) (call : Call) (timestamp : String)
    (aside : ¬Header.Frames (lowerName name)) :
    (c.request call timestamp).carried name
      = if values (lowerName name) (c.ownHeaders call timestamp) = []
        then values (lowerName name) c.defaults
        else values (lowerName name) (c.ownHeaders call timestamp) := by
  rw [HttpRequest.carried, HttpRequest.sentHeaders, Header.values_sentHeaders aside]
  exact Header.values_withDefaults ..

theorem carried_default (built : o.build = .ok c) (aside : ¬Header.Frames (lowerName name))
    (plain : values (lowerName name) Options.jsonHeaders = [])
    (unset : values (lowerName name) (c.ownHeaders call timestamp) = []) :
    (c.request call timestamp).carried name = (Options.configured o.headers name).toList := by
  rw [carried_request c call timestamp aside, unset, if_pos rfl,
    Options.values_defaults built plain]

end Client

theorem Method.upperCase_name (m : Method) : Text.upperCase m.name = m.name := by
  cases m <;> decide

def signatureHeaders : List String :=
  [Signature.keyHeader, Signature.signHeader, Signature.timestampHeader,
    Signature.passphraseHeader]

structure HttpRequest.SignedBy (r : HttpRequest) (k : Credentials) (at' method path body : String) :
    Prop where
  key : r.carried Signature.keyHeader = [k.apiKey]
  timestamp : r.carried Signature.timestampHeader = [at']
  passphrase : r.carried Signature.passphraseHeader = [k.passphrase]
  signature : r.carried Signature.signHeader
    = [Digest.Base64.encode (Digest.Hmac.mac (Text.Utf8.encode k.secretKey)
        (Text.Utf8.encode (at' ++ method ++ path ++ body)))]

namespace Client

variable {o : Options} {c : Client} {ask : Ask} {call : Call} {n : Nat} {u w : Surroundings}
  {tries : List Try} {k : Credentials} {name timestamp : String}

theorem lowerNames :
    lowerName Signature.keyHeader = "ok-access-key" ∧
      lowerName Signature.signHeader = "ok-access-sign" ∧
      lowerName Signature.timestampHeader = "ok-access-timestamp" ∧
      lowerName Signature.passphraseHeader = "ok-access-passphrase" ∧
      lowerName Signature.simulatedHeader = "x-simulated-trading" := by decide

def marks (c : Client) : List (String × String) :=
  if c.simulated then [("x-simulated-trading", "1")] else []

theorem ownHeaders_signed (signer : call.signer = some k) :
    c.ownHeaders call timestamp
      = [("ok-access-key", k.apiKey),
          ("ok-access-sign",
            Signature.sign k.secretKey timestamp call.method.name call.path call.body),
          ("ok-access-timestamp", timestamp), ("ok-access-passphrase", k.passphrase)]
        ++ c.marks := by
  cases marked : c.simulated <;>
    simp [ownHeaders, signer, Signature.headers, Signature.simulatedHeaders, lowerNames, marks,
      marked]

theorem ownHeaders_unsigned (signer : call.signer = none) :
    c.ownHeaders call timestamp = c.marks := by
  cases marked : c.simulated <;>
    simp [ownHeaders, signer, Signature.simulatedHeaders, lowerNames, marks, marked]

theorem distinct_ownHeaders (c : Client) (call : Call) (timestamp : String) :
    ((c.ownHeaders call timestamp).map Prod.fst).Nodup := by
  cases signer : call.signer with
  | none =>
      rw [ownHeaders_unsigned signer, marks]
      cases c.simulated <;> decide
  | some k =>
      rw [ownHeaders_signed signer, marks]
      cases c.simulated <;> simp

theorem carried_own {value : String} (aside : ¬Header.Frames (lowerName name))
    (own : (lowerName name, value) ∈ c.ownHeaders call timestamp) :
    (c.request call timestamp).carried name = [value] := by
  rw [carried_request c call timestamp aside,
    Header.values_of_mem (distinct_ownHeaders c call timestamp) own]
  simp

theorem request_signedBy (signer : call.signer = some k) :
    (c.request call timestamp).SignedBy k timestamp call.method.name call.path call.body := by
  have own : c.ownHeaders call timestamp = _ := ownHeaders_signed signer
  refine ⟨carried_own (by decide) ?_, carried_own (by decide) ?_, carried_own (by decide) ?_, ?_⟩
  · simp [own, lowerNames]
  · simp [own, lowerNames]
  · simp [own, lowerNames]
  · refine carried_own (by decide) ?_
    rw [own, ← Signature.signMessage]
    simp [lowerNames, Signature.sign, Signature.signedText, Method.upperCase_name]

theorem signature_plain (hname : name ∈ signatureHeaders) :
    ¬Header.Frames (lowerName name) ∧ values (lowerName name) Options.jsonHeaders = [] ∧
      values (lowerName name) c.marks = [] := by
  have plain : ∀ b : Bool, ∀ name ∈ signatureHeaders, ¬Header.Frames (lowerName name) ∧
      values (lowerName name) Options.jsonHeaders = [] ∧
      values (lowerName name) (if b then [("x-simulated-trading", "1")] else []) = [] := by
    decide
  exact plain c.simulated name hname

structure Signs (o : Options) (ask : Ask) (w : Surroundings) (tries : List Try) (u : Surroundings) :
    Prop where
  signed : ask.isPrivate = true → ∃ k path, o.credentials = some k ∧ ask.path? = .ok path ∧
    u.timestamps.drawn = w.timestamps.drawn + tries.length ∧
    ∀ i (t : Try), tries[i]? = some t →
      t.request.SignedBy k (w.timestamps.text (w.timestamps.drawn + i)) ask.method.name path ask.body
  unsigned : ask.isPrivate = false → u.timestamps = w.timestamps ∧
    ∀ t ∈ tries, ∀ name ∈ signatureHeaders,
      t.request.carried name = (Options.configured o.headers name).toList

theorem Course.signs (course : c.Course call n w tries u) (built : o.build = .ok c)
    (asks : c.Asks ask call) : Signs o ask w tries u := by
  refine ⟨fun isPrivate => ?_, fun isPublic => ?_⟩
  · obtain ⟨k, credentials, signer⟩ := asks.signed isPrivate
    obtain ⟨drawn, stamped⟩ := course.stamped signer
    refine ⟨k, call.path, ?_, asks.path, drawn, fun i t ht => ?_⟩
    · rw [← (Options.build_eq built).2.2.2.1, credentials]
    · rw [stamped i t ht, ← asks.method, ← asks.body]
      exact request_signedBy signer
  · have signer := asks.unsigned isPublic
    obtain ⟨kept, unstamped⟩ := course.unstamped signer
    refine ⟨kept, fun t ht name hname => ?_⟩
    obtain ⟨aside, plain, unmarked⟩ := signature_plain (c := c) hname
    rw [unstamped t ht]
    refine carried_default built aside plain ?_
    rw [ownHeaders_unsigned signer, unmarked]

theorem attempts_signed (built : o.build = .ok c) (asked : ask.call? c = .ok call) :
    (∀ {n w tries u}, c.Course call n w tries u → Signs o ask w tries u) ∧
      ∀ {α : Type} (decode : Json → Option α) (w : Surroundings), ∃ tries,
        c.Course call o.retry.maxRetries w tries (c.perform decode (ask.call? c) w).2 ∧
          (c.perform decode (ask.call? c) w).2.server.received
            = w.server.received ++ tries.filterMap Try.seen := by
  refine ⟨fun course => course.signs built (asks_of_call? asked), fun decode w => ?_⟩
  rw [← (Options.build_eq built).2.2.1]
  exact perform_course asked decode w

def forging : Options :=
  ⟨"http://[::1]", true, 0,
    [("Ok-Access-Sign", "forged"), ("OK-ACCESS-TIMESTAMP", "0"), ("X-Simulated-Trading", "0")],
    ⟨1, 0, 0⟩, some ⟨"key", "secret", "pass"⟩⟩

def forger : Client :=
  ⟨"http://[::1]", true, Options.jsonHeaders ++
    [("ok-access-sign", "forged"), ("ok-access-timestamp", "0"), ("x-simulated-trading", "0")],
    ⟨1, 0, 0⟩, some ⟨"key", "secret", "pass"⟩⟩

def placing : Ask := .privatePost "/p" (.obj [("a", .str "b")])

def placed : Call := ⟨.post, "/p", "\x7b\"a\":\"b\"\x7d", some ⟨"key", "secret", "pass"⟩⟩

def busy : Surroundings :=
  ⟨⟨["t0", "t1"], 0⟩, ⟨⟨.v6 [0, 0, 0, 0, 0, 0, 0, 1], 80⟩, true, [.answer 503 [] false, .hang], []⟩⟩

theorem forging_signed :
    forging.build = .ok forger ∧ placing.call? forger = .ok placed ∧
      ∃ tries u, forger.Course placed 1 busy tries u ∧ u.timestamps.drawn = 2 ∧
        Signs forging placing busy tries u := by
  have built : forging.build = .ok forger := rfl
  have asked : placing.call? forger = .ok placed := rfl
  have drawn :
      (forger.perform serverTimes? (placing.call? forger) busy).2.timestamps.drawn = 2 := by
    decide +kernel
  obtain ⟨signs, performed⟩ := attempts_signed built asked
  obtain ⟨tries, course, _⟩ := performed serverTimes? busy
  exact ⟨built, asked, tries, _, course, drawn, signs course⟩

end Client

end MarketWire.Rest
