import MarketWire.Proofs.Rest.Signing

namespace MarketWire.Rest

theorem Envelope.isSuccess_iff_code (e : Envelope) : e.isSuccess = true ↔ e.code = "0" := beq_iff_eq

namespace Outcome

variable {α : Type} {decode : Json → Option α} {o : Outcome} {status : Nat} {body : Option String}
  {text msg : String} {r : Except RestError α}

def Transient : Outcome → Prop
  | noConnection => True
  | timedOut => True
  | response status _ => status = 429 ∨ 500 ≤ status ∧ status < 600
  | _ => False

theorem isRetryable_iff : o.isRetryable = true ↔ o.Transient := by
  cases o with
  | response status body =>
      simp only [isRetryable, Transient, Status.isServerError, Status.tooManyRequests,
        Bool.or_eq_true, Bool.and_eq_true, decide_eq_true_eq, beq_iff_eq]
      exact or_comm
  | _ => simp [isRetryable, Transient]

inductive Explains (status : Nat) : Option String → String → Prop where
  | enveloped {text : String} {e : Envelope} :
      Envelope.read? text = some e → e.msg ≠ "" → Explains status (some text) e.msg
  | bare {text : String} :
      (∀ e, Envelope.read? text = some e → e.msg = "") → Explains status (some text) text
  | unread : Explains status none (unreadableBody status)

def IsSuccess (status : Nat) : Prop := 200 ≤ status ∧ status < 300

structure IsOther (status : Nat) : Prop where
  failed : ¬IsSuccess status
  authorized : status ≠ 401
  unlimited : status ≠ 429
  client : ¬(500 ≤ status ∧ status < 600)

inductive Tells (decode : Json → Option α) : Outcome → Except RestError α → Prop where
  | unanswered {o : Outcome} :
      (∀ status body, o ≠ .response status body) → Tells decode o (.error .http)
  | unread {status : Nat} : IsSuccess status → Tells decode (.response status none) (.error .http)
  | malformed {status : Nat} {text : String} :
      IsSuccess status → Envelope.read? text = none →
      Tells decode (.response status (some text))
        (.error (.undecodable ("Failed to deserialize response: " ++ Json.complaint)))
  | refused {status : Nat} {text : String} {e : Envelope} :
      IsSuccess status → Envelope.read? text = some e → e.code ≠ "0" →
      Tells decode (.response status (some text)) (.error (.refusedByApi e.code e.msg))
  | unfit {status : Nat} {text : String} {e : Envelope} :
      IsSuccess status → Envelope.read? text = some e → e.code = "0" → decode e.data = none →
      Tells decode (.response status (some text))
        (.error (.undecodable ("Failed to deserialize data: " ++ Json.complaint)))
  | data {status : Nat} {text : String} {e : Envelope} {a : α} :
      IsSuccess status → Envelope.read? text = some e → e.code = "0" → decode e.data = some a →
      Tells decode (.response status (some text)) (.ok a)
  | unauthorized {body : Option String} {msg : String} :
      Explains 401 body msg → Tells decode (.response 401 body) (.error (.unauthorized msg))
  | limited {body : Option String} {msg : String} :
      Explains 429 body msg → Tells decode (.response 429 body) (.error (.rateLimited msg))
  | failed {status : Nat} {body : Option String} {msg : String} :
      500 ≤ status → status < 600 → Explains status body msg →
      Tells decode (.response status body) (.error (.serverError msg))
  | declined {status : Nat} {text : String} {e : Envelope} :
      IsOther status → Envelope.read? text = some e → e.code ≠ "0" →
      Tells decode (.response status (some text)) (.error (.refusedByApi e.code e.msg))
  | unexpected {status : Nat} {body : Option String} {msg : String} :
      IsOther status → (∀ text e, body = some text → Envelope.read? text = some e → e.code = "0") →
      Explains status body msg →
      Tells decode (.response status body) (.error (.unexpectedStatus status msg))

theorem read?_unreadableBody (status : Nat) : Envelope.read? (unreadableBody status) = none := by
  obtain ⟨rest, begins⟩ : ∃ rest, (unreadableBody status).toList = 'H' :: rest := by
    rw [unreadableBody, String.toList_append, String.toList_append]
    exact ⟨_, rfl⟩
  have unread : Json.Draft.read? ('H' :: rest) = none := by
    simp [Json.Draft.read?, Json.readValue, Json.skipSpace, Json.isSpace, Json.readNumeral,
      Json.readUnsigned, Json.readWhole, Json.spanDigits, Json.isDigit]
  rw [Envelope.read?, begins, unread]
  rfl

theorem explains_explanation (status : Nat) (body : Option String) :
    Explains status body (explanation (body.getD (unreadableBody status))) := by
  cases body with
  | none =>
      rw [Option.getD_none, explanation, read?_unreadableBody]
      exact .unread
  | some text =>
      rw [Option.getD_some, explanation]
      split
      · next e read =>
          split
          · next empty =>
              refine .bare fun e' read' => ?_
              rw [read] at read'
              cases read'
              simpa using empty
          · next said => exact .enveloped read (by simpa using said)
      · next unread =>
          refine .bare fun e' read' => ?_
          rw [unread] at read'
          cases read'

theorem Explains.eq (h : Explains status body msg) :
    msg = explanation (body.getD (unreadableBody status)) := by
  cases h with
  | enveloped read said => simp [explanation, read, said]
  | bare silent =>
      rw [Option.getD_some, explanation]
      split
      · next e read => simp [silent e read]
      · rfl
  | unread => rw [Option.getD_none, explanation, read?_unreadableBody]

theorem isSuccess_iff : Status.isSuccess status = true ↔ IsSuccess status := by
  simp [Status.isSuccess, IsSuccess]

theorem isServerError_iff :
    Status.isServerError status = true ↔ 500 ≤ status ∧ status < 600 := by
  simp [Status.isServerError]

theorem unwrap_tells (decode : Json → Option α) (success : IsSuccess status) (text : String) :
    Tells decode (.response status (some text)) (unwrap decode text) := by
  rw [unwrap]
  split
  · next unread => exact .malformed success unread
  · next e read =>
      split
      · next good =>
          have code : e.code = "0" := e.isSuccess_iff_code.mp good
          split
          · next a fit => exact .data success read code fit
          · next unfit => exact .unfit success read code unfit
      · next bad => exact .refused success read fun code => bad (e.isSuccess_iff_code.mpr code)

theorem statusError_tells (decode : Json → Option α) (failed : ¬IsSuccess status)
    (body : Option String) :
    Tells decode (.response status body)
      (.error (statusError status (body.getD (unreadableBody status)))) := by
  have said := explains_explanation status body
  rw [statusError]
  split
  · next unauthorized =>
      cases unauthorized
      exact .unauthorized said
  · next authorized =>
      split
      · next limited =>
          cases limited
          exact .limited said
      · next unlimited =>
          split
          · next server =>
              obtain ⟨least, most⟩ := isServerError_iff.mp server
              exact .failed least most said
          · next client =>
              have other : IsOther status :=
                ⟨failed, authorized, unlimited, fun h => client (isServerError_iff.mpr h)⟩
              split
              · next e read =>
                  obtain ⟨text, rfl⟩ : ∃ text, body = some text := by
                    cases body with
                    | some text => exact ⟨text, rfl⟩
                    | none =>
                        rw [Option.getD_none, read?_unreadableBody] at read
                        cases read
                  split
                  · next good =>
                      refine .unexpected other ?_ said
                      rintro _ e' ⟨⟩ read'
                      cases read.symm.trans read'
                      exact e.isSuccess_iff_code.mp good
                  · next bad =>
                      exact .declined other read fun code => bad (e.isSuccess_iff_code.mpr code)
              · next unread =>
                  refine .unexpected other ?_ said
                  rintro text e rfl read
                  cases unread.symm.trans read

theorem result_tells (decode : Json → Option α) (o : Outcome) :
    Tells decode o (o.result decode) := by
  cases o with
  | response status body =>
      simp only [result]
      split
      · next success =>
          have success := isSuccess_iff.mp success
          cases body with
          | some text => exact unwrap_tells decode success text
          | none => exact .unread success
      · next failed => exact statusError_tells decode (fun h => failed (isSuccess_iff.mpr h)) body
  | _ => exact .unanswered nofun

theorem result_success (decode : Json → Option α) (success : IsSuccess status) (text : String) :
    (response status (some text)).result decode = unwrap decode text := by
  simp [result, isSuccess_iff.mpr success]

theorem result_failed (decode : Json → Option α) (failed : ¬IsSuccess status)
    (body : Option String) :
    (response status body).result decode
      = .error (statusError status (body.getD (unreadableBody status))) := by
  have unsuccessful : Status.isSuccess status = false := by
    rw [Bool.eq_false_iff]
    exact fun h => failed (isSuccess_iff.mp h)
  simp [result, unsuccessful]

theorem IsOther.statusError (h : IsOther status) :
    statusError status text
      = match Envelope.read? text with
        | some e =>
            if e.isSuccess then .unexpectedStatus status (explanation text)
            else .refusedByApi e.code e.msg
        | none => .unexpectedStatus status (explanation text) := by
  have client : ¬Status.isServerError status = true := fun server =>
    h.client (isServerError_iff.mp server)
  have authorized : status ≠ Status.unauthorized := h.authorized
  have unlimited : status ≠ Status.tooManyRequests := h.unlimited
  cases read : Envelope.read? text <;>
    simp only [Outcome.statusError, if_neg authorized, if_neg unlimited, if_neg client, read]

theorem Tells.result (h : Tells decode o r) : o.result decode = r := by
  cases h with
  | unanswered none =>
      cases o with
      | response status body => exact absurd rfl (none status body)
      | _ => rfl
  | unread success => simp [Outcome.result, isSuccess_iff.mpr success]
  | malformed success unread => simp [result_success decode success, unwrap, unread]
  | refused success read code =>
      simp [result_success decode success, unwrap, read, Envelope.isSuccess_iff_code, code]
  | unfit success read code unfit =>
      simp [result_success decode success, unwrap, read, Envelope.isSuccess_iff_code, code, unfit]
  | data success read code fit =>
      simp [result_success decode success, unwrap, read, Envelope.isSuccess_iff_code, code, fit]
  | unauthorized said =>
      rw [result_failed decode (by simp [IsSuccess]), said.eq]
      rfl
  | limited said =>
      rw [result_failed decode (by simp [IsSuccess]), said.eq]
      rfl
  | @failed status body msg least most said =>
      have failed : ¬IsSuccess status := fun h => by
        have := h.2
        omega
      rw [result_failed decode failed, said.eq, Outcome.statusError,
        if_neg (by simp only [Status.unauthorized]; omega),
        if_neg (by simp only [Status.tooManyRequests]; omega),
        if_pos (isServerError_iff.mpr ⟨least, most⟩)]
  | @declined status text e other read code =>
      rw [result_failed decode other.failed, Option.getD_some, other.statusError, read]
      simp [Envelope.isSuccess_iff_code, code]
  | @unexpected status body msg other good said =>
      rw [result_failed decode other.failed, other.statusError, ← said.eq]
      cases body with
      | none => rw [Option.getD_none, read?_unreadableBody]
      | some text =>
          rw [Option.getD_some]
          split
          · next e read =>
              simp [e.isSuccess_iff_code.mpr (good text e rfl read)]
          · rfl

theorem tells_iff : Tells decode o r ↔ o.result decode = r := by
  constructor
  · exact Tells.result
  · rintro rfl
    exact result_tells decode o

end Outcome

namespace Client

variable {c : Client} {ask : Ask} {call : Call} {n : Nat} {u w : Surroundings} {tries : List Try}

structure IsLast (o : Nat → Outcome) (retries k : Nat) : Prop where
  ends : ¬(o k).Transient ∨ k = retries
  least : ∀ i, ¬(o i).Transient ∨ i = retries → k ≤ i

theorem outcome_tried (c : Client) (call : Call) (w : Surroundings) :
    (c.tried call w).outcome = (c.attempt call w).1 := by
  simp only [tried]

theorem Course.count (course : c.Course call n w tries u) :
    ∀ o : Nat → Outcome, (∀ i (t : Try), tries[i]? = some t → t.outcome = o i) →
      ∃ k, tries.length = k + 1 ∧ IsLast o n k := by
  induction course with
  | @ended n w final =>
      intro o same
      have first : (c.attempt call w).1 = o 0 := by
        rw [← same 0 (c.tried call w) rfl, outcome_tried]
      refine ⟨0, rfl, ?_, fun i _ => Nat.zero_le i⟩
      rcases final with spent | final
      · exact Or.inr spent.symm
      · refine Or.inl fun transient => ?_
        rw [← first, ← Outcome.isRetryable_iff, final] at transient
        cases transient
  | @again n u v w tries retryable _ _ ih =>
      intro o same
      have first : (o 0).Transient := by
        rw [← same 0 (c.tried call w) rfl, outcome_tried, ← Outcome.isRetryable_iff]
        exact retryable
      obtain ⟨k, length, ends, least⟩ := ih (fun i => o (i + 1)) fun i t ht => same (i + 1) t ht
      refine ⟨k + 1, by rw [List.length_cons, length], ?_, fun i hi => ?_⟩
      · exact ends.imp id fun last => congrArg (· + 1) last
      · cases i with
        | zero =>
            rcases hi with final | last
            · exact absurd first final
            · cases last
        | succ i => exact Nat.succ_le_succ (least i (hi.imp id Nat.succ.inj))

theorem tried_first (c : Client) (call : Call) (timestamps : Timestamps) (servers : Nat → Server)
    {i : Nat} {t : Try} (ht : [c.tried call ⟨timestamps, servers 0⟩][i]? = some t) :
    ∃ timestamps, t = c.tried call ⟨timestamps, servers i⟩ := by
  cases i with
  | zero =>
      cases ht
      exact ⟨timestamps, rfl⟩
  | succ i => cases ht

theorem exists_course (c : Client) (call : Call) (n : Nat) (timestamps : Timestamps)
    (servers : Nat → Server) :
    ∃ tries u, c.Course call n ⟨timestamps, servers 0⟩ tries u ∧
      ∀ i (t : Try), tries[i]? = some t →
        ∃ timestamps, t = c.tried call ⟨timestamps, servers i⟩ := by
  induction n generalizing timestamps servers with
  | zero => exact ⟨_, _, .ended (Or.inl rfl), fun _ _ ht => tried_first c call timestamps servers ht⟩
  | succ n ih =>
      cases retryable : (c.attempt call ⟨timestamps, servers 0⟩).1.isRetryable with
      | false =>
          refine ⟨_, _, .ended (Or.inr retryable), fun _ _ ht => ?_⟩
          exact tried_first c call timestamps servers ht
      | true =>
          generalize left : (c.attempt call ⟨timestamps, servers 0⟩).2.timestamps = later
          obtain ⟨tries, u, course, met⟩ := ih later fun i => servers (i + 1)
          refine ⟨_, u, .again retryable left.symm course, fun i t ht => ?_⟩
          cases i with
          | zero =>
              cases ht
              exact ⟨timestamps, rfl⟩
          | succ i => exact met i t ht

theorem attempts_retried (asked : ask.call? c = .ok call) :
    (∀ (timestamps : Timestamps) (servers : Nat → Server), ∃ tries u,
      c.Course call c.retry.maxRetries ⟨timestamps, servers 0⟩ tries u ∧
        ∀ i (t : Try), tries[i]? = some t →
          ∃ timestamps, t = c.tried call ⟨timestamps, servers i⟩) ∧
      (∀ {w tries u}, c.Course call c.retry.maxRetries w tries u → ∀ o : Nat → Outcome,
        (∀ i (t : Try), tries[i]? = some t → t.outcome = o i) →
          ∃ k, tries.length = k + 1 ∧ IsLast o c.retry.maxRetries k) ∧
      ∀ {α : Type} (decode : Json → Option α) (w : Surroundings), ∃ tries last,
        c.Course call c.retry.maxRetries w tries (c.perform decode (ask.call? c) w).2 ∧
          (c.perform decode (ask.call? c) w).2.server.received
            = w.server.received ++ tries.filterMap Try.seen ∧
          tries.getLast? = some last ∧
          ∀ r, Outcome.Tells decode last.outcome r ↔ (c.perform decode (ask.call? c) w).1 = r := by
  refine ⟨exists_course c call c.retry.maxRetries, fun course => course.count,
    fun decode w => ?_⟩
  obtain ⟨tries, course, ended, received⟩ := attempts_course c call c.retry.maxRetries w
  obtain ⟨last, hlast, outcome⟩ := Option.map_eq_some_iff.mp ended
  rw [asked]
  refine ⟨tries, last, course, received, hlast, fun r => ?_⟩
  rw [Outcome.tells_iff, outcome]
  rfl

theorem busy_retried :
    Ask.serverTime.call? forger = .ok serverTimeCall ∧
      ∃ tries last u, forger.Course serverTimeCall 1 busy tries u ∧
        (tries.filterMap Try.seen).length = 2 ∧ tries.getLast? = some last ∧
        Outcome.Tells serverTimes? last.outcome (.error .http) := by
  have asked : Ask.serverTime.call? forger = .ok serverTimeCall := rfl
  have told : (match (forger.perform serverTimes? (Ask.serverTime.call? forger) busy).1 with
      | .error e => some e
      | .ok _ => none) = some .http := by decide +kernel
  have arrived : (forger.perform serverTimes? (Ask.serverTime.call? forger)
      busy).2.server.received.length = 2 := by decide +kernel
  obtain ⟨_, _, performed⟩ := attempts_retried asked
  obtain ⟨tries, last, course, received, hlast, tells⟩ := performed serverTimes? busy
  rw [received] at arrived
  refine ⟨asked, tries, last, _, course, arrived, hlast, (tells _).mpr ?_⟩
  split at told
  · next e same =>
      cases told
      exact same
  · cases told

end Client

end MarketWire.Rest
