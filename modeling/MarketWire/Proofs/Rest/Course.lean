import MarketWire.Proofs.Rest.Header
import MarketWire.Rest.TimeSync

namespace MarketWire.Rest

def Timestamps.text (t : Timestamps) (n : Nat) : String :=
  t.texts[n]?.getD (t.texts.getLast?.getD "")

def HttpRequest.sentHeaders (r : HttpRequest) : List (String × String) :=
  Framing.sentHeaders r.headers (Text.Utf8.encode r.body)

def HttpRequest.carried (r : HttpRequest) (name : String) : List String :=
  Header.values (Header.lowerName name) r.sentHeaders

def Server.sees? (s : Server) (r : HttpRequest) : Option Received :=
  (Url.parse? r.url).bind fun u =>
    if Server.isSendable r u ∧ s.listening ∧ u.site = s.site then
      (Framing.received? r.sentHeaders (Text.Utf8.encode r.body)).map fun body =>
        ⟨r.method, String.ofList u.target, r.sentHeaders.map fun h => (h.1, Header.received h.2),
          Text.Utf8.decode body⟩
    else none

theorem Server.exchange_received (s : Server) (r : HttpRequest) :
    (s.exchange r).2.received = s.received ++ (s.sees? r).toList := by
  rw [Server.exchange, Server.sees?]
  cases Url.parse? r.url with
  | none => simp
  | some u =>
      rw [Option.bind_some]
      by_cases sendable : isSendable r u = true
      · by_cases there : s.listening = true ∧ u.site = s.site
        · simp only [sendable, there, Server.receive]
          cases hb : Framing.received? r.sentHeaders (Text.Utf8.encode r.body) with
          | none =>
              rw [HttpRequest.sentHeaders] at hb
              simp [hb]
          | some body =>
              rw [HttpRequest.sentHeaders] at hb
              simp [hb, Server.answer, HttpRequest.sentHeaders]
        · simp [sendable, there]
      · simp [sendable]

inductive Client.Ask where
  | publicGet (path : String) (query : List (String × String))
  | serverTime
  | privateGet (path : String) (query : List (String × String))
  | privatePost (path : String) (body : Json)

namespace Client.Ask

def call? (c : Client) : Ask → Except RestError Call
  | publicGet path query => Client.publicGet path query
  | serverTime => .ok serverTimeCall
  | privateGet path query => c.privateGet path query
  | privatePost path body => c.privatePost path body

def isPrivate : Ask → Bool
  | privateGet _ _ => true
  | privatePost _ _ => true
  | _ => false

def method : Ask → Method
  | privatePost _ _ => .post
  | _ => .get

def body : Ask → String
  | privatePost _ body => body.text
  | _ => ""

def path? : Ask → Except RestError String
  | publicGet path query => requestPath path query
  | serverTime => .ok serverTimePath
  | privateGet path query => requestPath path query
  | privatePost path _ => .ok path

end Client.Ask

namespace Client

variable {c : Client} {ask : Ask} {call : Call} {n : Nat} {u v w : Surroundings}

structure Asks (c : Client) (ask : Ask) (call : Call) : Prop where
  method : call.method = ask.method
  path : ask.path? = .ok call.path
  body : call.body = ask.body
  signed : ask.isPrivate = true → ∃ k, c.credentials = some k ∧ call.signer = some k
  unsigned : ask.isPrivate = false → call.signer = none

theorem asks_of_call? (h : ask.call? c = .ok call) : c.Asks ask call := by
  cases ask with
  | publicGet path query =>
      cases hp : requestPath path query with
      | error e => simp [Ask.call?, publicGet, hp, Except.map] at h
      | ok p =>
          simp only [Ask.call?, publicGet, hp, Except.map, Except.ok.injEq] at h
          subst h
          exact ⟨rfl, hp, rfl, nofun, fun _ => rfl⟩
  | serverTime =>
      cases h
      exact ⟨rfl, rfl, rfl, nofun, fun _ => rfl⟩
  | privateGet path query =>
      cases hk : c.credentials with
      | none => simp [Ask.call?, privateGet, requireCredentials, hk, Except.bind] at h
      | some k =>
          cases hp : requestPath path query with
          | error e =>
              simp [Ask.call?, privateGet, requireCredentials, hk, hp, Except.bind, Except.map] at h
          | ok p =>
              simp only [Ask.call?, privateGet, requireCredentials, hk, hp, Except.bind, Except.map,
                Except.ok.injEq] at h
              subst h
              exact ⟨rfl, hp, rfl, fun _ => ⟨k, hk, rfl⟩, nofun⟩
  | privatePost path body =>
      cases hk : c.credentials with
      | none => simp [Ask.call?, privatePost, requireCredentials, hk, Except.map] at h
      | some k =>
          simp only [Ask.call?, privatePost, requireCredentials, hk, Except.map,
            Except.ok.injEq] at h
          subst h
          exact ⟨rfl, rfl, rfl, fun _ => ⟨k, hk, rfl⟩, nofun⟩

structure Try where
  request : HttpRequest
  outcome : Outcome
  seen : Option Received

def stamp (call : Call) (w : Surroundings) : String :=
  if call.signer.isSome then w.timestamps.text w.timestamps.drawn else ""

def tried (c : Client) (call : Call) (w : Surroundings) : Try where
  request := c.request call (stamp call w)
  outcome := (c.attempt call w).1
  seen := w.server.sees? (c.request call (stamp call w))

inductive Course (c : Client) (call : Call) : Nat → Surroundings → List Try → Surroundings → Prop
    where
  | ended {n : Nat} {w : Surroundings} :
      n = 0 ∨ (c.attempt call w).1.isRetryable = false →
      Course c call n w [c.tried call w] (c.attempt call w).2
  | again {n : Nat} {u v w : Surroundings} {tries : List Try} :
      (c.attempt call w).1.isRetryable = true →
      v.timestamps = (c.attempt call w).2.timestamps →
      Course c call n v tries u → Course c call (n + 1) w (c.tried call w :: tries) u

theorem attempt_eq (c : Client) (call : Call) (w : Surroundings) :
    c.attempt call w
      = ((w.server.exchange (c.request call (stamp call w))).1,
        ⟨if call.signer.isSome then { w.timestamps with drawn := w.timestamps.drawn + 1 }
            else w.timestamps,
          (w.server.exchange (c.request call (stamp call w))).2⟩) := by
  cases signer : call.signer <;>
    simp only [attempt, stamp, signer, Timestamps.draw, Timestamps.text, Option.isSome_none,
      Option.isSome_some, Bool.false_eq_true, ↓reduceIte]

theorem attempt_seen (c : Client) (call : Call) (w : Surroundings) :
    (c.attempt call w).2.server.received
      = w.server.received ++ [c.tried call w].filterMap Try.seen := by
  simp only [attempt_eq, tried, Server.exchange_received, List.filterMap_cons, List.filterMap_nil]
  cases w.server.sees? (c.request call (stamp call w)) <;> rfl

theorem last_tried (c : Client) (call : Call) (w : Surroundings) :
    [c.tried call w].getLast?.map Try.outcome = some (c.attempt call w).1 := by
  simp only [List.getLast?_singleton, Option.map_some, tried]

theorem attempt_timestamps (c : Client) (call : Call) (w : Surroundings) :
    (c.attempt call w).2.timestamps
      = if call.signer.isSome then { w.timestamps with drawn := w.timestamps.drawn + 1 }
        else w.timestamps := by
  rw [attempt_eq]

theorem Course.ne_nil {tries : List Try} (course : c.Course call n w tries u) : tries ≠ [] := by
  cases course <;> simp

theorem attempts_succ (c : Client) (call : Call) (n : Nat) (w : Surroundings) :
    c.attempts call (n + 1) w
      = if (c.attempt call w).1.isRetryable then c.attempts call n (c.attempt call w).2
        else c.attempt call w := by
  rw [attempts]

theorem attempts_course (c : Client) (call : Call) (n : Nat) (w : Surroundings) :
    ∃ tries, c.Course call n w tries (c.attempts call n w).2 ∧
      tries.getLast?.map Try.outcome = some (c.attempts call n w).1 ∧
      (c.attempts call n w).2.server.received
        = w.server.received ++ tries.filterMap Try.seen := by
  induction n generalizing w with
  | zero =>
      rw [attempts]
      exact ⟨_, .ended (Or.inl rfl), last_tried c call w, attempt_seen c call w⟩
  | succ n ih =>
      rw [attempts_succ]
      by_cases retryable : (c.attempt call w).1.isRetryable = true
      · obtain ⟨tries, course, last, received⟩ := ih (c.attempt call w).2
        rw [if_pos retryable]
        refine ⟨_, .again retryable rfl course, ?_, ?_⟩
        · rwa [List.getLast?_cons_of_ne_nil course.ne_nil]
        · rw [received, attempt_seen, List.append_assoc, ← List.filterMap_append,
            List.singleton_append]
      · rw [if_neg retryable]
        exact ⟨_, .ended (Or.inr (Bool.eq_false_iff.mpr retryable)), last_tried c call w,
          attempt_seen c call w⟩

theorem perform_course {α : Type} (asked : ask.call? c = .ok call) (decode : Json → Option α)
    (w : Surroundings) :
    ∃ tries, c.Course call c.retry.maxRetries w tries (c.perform decode (ask.call? c) w).2 ∧
      (c.perform decode (ask.call? c) w).2.server.received
        = w.server.received ++ tries.filterMap Try.seen := by
  obtain ⟨tries, course, _, received⟩ := attempts_course c call c.retry.maxRetries w
  rw [asked]
  exact ⟨tries, course, received⟩

variable {tries : List Try}

theorem Course.stamped (course : c.Course call n w tries u) {k : Credentials}
    (signer : call.signer = some k) :
    u.timestamps.drawn = w.timestamps.drawn + tries.length ∧
      ∀ i t, tries[i]? = some t →
        t.request = c.request call (w.timestamps.text (w.timestamps.drawn + i)) := by
  have first : ∀ x : Surroundings, (c.tried call x).request
      = c.request call (x.timestamps.text x.timestamps.drawn) := by
    intro x
    simp [tried, stamp, signer]
  induction course with
  | @ended n w final =>
      refine ⟨by simp [attempt_timestamps, signer], fun i t ht => ?_⟩
      cases i with
      | zero =>
          cases ht
          exact first w
      | succ i => simp at ht
  | @again n u v w tries _ same _ ih =>
      rw [attempt_timestamps, signer] at same
      obtain ⟨drawn, later⟩ := ih
      refine ⟨?_, fun i t ht => ?_⟩
      · rw [drawn, same, List.length_cons]
        simp only [Option.isSome_some, ↓reduceIte]
        omega
      · cases i with
        | zero =>
            cases ht
            exact first w
        | succ i =>
            rw [later i t (by simpa using ht), same]
            simp only [Option.isSome_some, ↓reduceIte, Timestamps.text]
            rw [Nat.add_right_comm, Nat.add_assoc]

theorem Course.unstamped (course : c.Course call n w tries u) (unsigned : call.signer = none) :
    u.timestamps = w.timestamps ∧ ∀ t ∈ tries, t.request = c.request call "" := by
  have first : ∀ x : Surroundings, (c.tried call x).request = c.request call "" := by
    intro x
    simp [tried, stamp, unsigned]
  induction course with
  | @ended n w final =>
      refine ⟨by simp [attempt_timestamps, unsigned], fun t ht => ?_⟩
      rw [List.mem_singleton.mp ht]
      exact first w
  | @again n u v w tries _ same _ ih =>
      rw [attempt_timestamps, unsigned] at same
      refine ⟨ih.1.trans same, fun t ht => ?_⟩
      rcases List.mem_cons.mp ht with rfl | ht
      · exact first w
      · exact ih.2 t ht

theorem Course.requests (course : c.Course call n w tries u) :
    ∀ t ∈ tries, ∃ timestamp, t.request = c.request call timestamp := by
  intro t ht
  cases signer : call.signer with
  | none => exact ⟨"", (course.unstamped signer).2 t ht⟩
  | some k =>
      obtain ⟨i, hi⟩ := List.getElem?_of_mem ht
      exact ⟨_, (course.stamped signer).2 i t hi⟩

end Client

end MarketWire.Rest
