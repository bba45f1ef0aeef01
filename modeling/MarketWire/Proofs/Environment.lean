import MarketWire.Proofs.Rest.Signing
import MarketWire.Proofs.Session.Conduct

namespace MarketWire

inductive Endpoint.Overrides (base : Endpoint) : Endpoint → Prop where
  | none : Overrides base base
  | rest {e : Endpoint} (url : String) : Overrides base e → Overrides base (e.withRestUrl url)
  | market {e : Endpoint} (url : String) : Overrides base e → Overrides base (e.withPublicUrl url)
  | account {e : Endpoint} (url : String) : Overrides base e → Overrides base (e.withPrivateUrl url)

theorem Endpoint.Overrides.simulated {base e : Endpoint} (h : base.Overrides e) :
    e.simulated = base.simulated := by
  induction h with
  | none => rfl
  | rest _ _ ih | market _ _ ih | account _ _ ih => exact ih

namespace Rest.Client

open Header (values lowerName)

variable {o : Options} {c : Client} {ask : Ask} {call : Call} {r : HttpRequest}
  {timestamp : String}

inductive Sends (c : Client) (ask : Ask) : HttpRequest → Prop where
  | attempt {call : Call} {n : Nat} {u w : Surroundings} {tries : List Try} {t : Try} :
      ask.call? c = .ok call → c.Course call n w tries u → t ∈ tries → Sends c ask t.request

theorem Sends.request (sends : c.Sends ask r) : ∃ call timestamp, r = c.request call timestamp := by
  cases sends with
  | attempt _ course ht =>
      obtain ⟨timestamp, made⟩ := course.requests _ ht
      exact ⟨_, timestamp, made⟩

theorem own_mark (c : Client) (call : Call) (timestamp : String) :
    values (lowerName Signature.simulatedHeader) (c.ownHeaders call timestamp)
      = if c.simulated then ["1"] else [] := by
  cases signer : call.signer with
  | none =>
      rw [ownHeaders_unsigned signer, marks]
      cases c.simulated <;> decide
  | some k =>
      rw [ownHeaders_signed signer, marks]
      cases c.simulated <;> simp [lowerNames]

theorem Sends.mark (built : o.build = .ok c) (sends : c.Sends ask r) :
    r.carried Signature.simulatedHeader
      = if o.simulated then ["1"]
        else (Options.configured o.headers Signature.simulatedHeader).toList := by
  obtain ⟨call, timestamp, rfl⟩ := sends.request
  have aside : ¬Header.Frames (lowerName Signature.simulatedHeader) := by decide
  have plain : values (lowerName Signature.simulatedHeader) Options.jsonHeaders = [] := by decide
  rw [← (Options.build_eq built).2.1, carried_request c call timestamp aside, own_mark,
    Options.values_defaults built plain]
  cases c.simulated <;> simp

theorem sync_sends (c : Client) (t : TimeSync) (sent received : Int) (w : Surroundings) :
    ∃ tries : List Try, (∀ t ∈ tries, c.Sends .serverTime t.request) ∧
      (t.sync c sent received w).2.2.server.received
        = w.server.received ++ tries.filterMap Try.seen := by
  have asked : Ask.serverTime.call? c = .ok serverTimeCall := rfl
  obtain ⟨tries, course, seen⟩ := perform_course asked serverTimes? w
  exact ⟨tries, fun t ht => .attempt rfl course ht, seen⟩

end Rest.Client

namespace Stream.Session

variable {s t : Session} {hs : List (String × String)}

def AskedWith (hs : List (String × String)) (s : Session) : Prop := ∀ l ∈ s.links, l.headers = hs

theorem AskedWith.onLink (h : s.AskedWith hs) (n : Nat) {f : Link → Link}
    (kept : ∀ l, (f l).headers = l.headers) : (s.onLink n f).AskedWith hs := by
  intro l hl
  obtain ⟨m, hm, rfl⟩ := List.mem_map.mp hl
  split
  · exact (kept m).trans (h m hm)
  · exact h m hm

theorem AskedWith.read {n : Nat} {a : Arrival} (h : s.AskedWith hs)
    (hr : s.nextArrival n = some (a, t)) : t.AskedWith hs := by
  obtain ⟨rest, rfl⟩ := nextArrival_eq hr
  exact h.onLink n fun _ => rfl

theorem AskedWith.command {cmd : Command} (h : s.AskedWith hs)
    (hn : s.nextCommand = some (cmd, t)) : t.AskedWith hs := by
  rcases nextCommand_eq hn with ⟨rest, _, rfl⟩ | ⟨_, _, _, _, rfl⟩
  · exact h
  · exact h

theorem subscribe_headers (l : Link) (x : Channel.Subscription) :
    (l.subscribe x).headers = l.headers := by
  rw [Link.subscribe]
  split <;> rfl

theorem AttemptDeed.askedWith {a : Attempt} {es : List Event} {p : Progress}
    (deed : AttemptDeed s a es t p) (own : s.profile.endpoint.headers = hs)
    (h : s.AskedWith hs) : t.AskedWith hs := by
  cases deed with
  | dialled address =>
      intro l hl
      rcases List.mem_append.mp hl with hl | hl
      · exact h l hl
      · rw [List.mem_singleton.mp hl]
        exact own
  | signed => exact h.onLink _ fun _ => rfl
  | refused => exact h.onLink _ fun _ => rfl
  | welcomed hr => exact (h.read hr :)
  | ponged hr => exact (h.read hr).onLink _ fun _ => rfl
  | ignored hr => exact (h.read hr :)
  | rejected hr => exact (h.read hr).onLink _ fun _ => rfl
  | unanswered => exact h.onLink _ fun _ => rfl
  | replayed => exact h.onLink _ fun l => subscribe_headers l _
  | unready => exact h.onLink _ fun _ => rfl
  | _ => exact h

theorem WorkerDeed.askedWith {es : List Event} (deed : WorkerDeed s es t)
    (own : s.profile.endpoint.headers = hs) (h : s.AskedWith hs) : t.AskedWith hs := by
  cases deed with
  | ponged _ hr | consumed _ hr | routed _ hr => exact (h.read hr :)
  | answered _ hr => exact (h.read hr).onLink _ fun _ => rfl
  | ignored _ hr => exact (h.read hr :)
  | lost _ hr => exact (h.read hr).onLink _ fun _ => rfl
  | overdue => exact h.onLink _ fun _ => rfl
  | pinged => exact h.onLink _ fun _ => rfl
  | subscribed _ hn => exact (h.command hn).onLink _ fun l => subscribe_headers l _
  | unsubscribed _ hn | unready _ hn | told _ hn =>
      exact (h.command hn).onLink _ fun _ => rfl
  | barred => exact h.onLink _ fun _ => rfl
  | stopped =>
      rename_i why _
      cases why <;> exact h.onLink _ fun _ => rfl
  | drained _ hn =>
      rename_i cmd s' _
      cases cmd <;> exact (h.command hn :)
  | attempted _ hd =>
      rw [AskedWith, onProgress_links]
      exact hd.askedWith own h
  | _ => exact h

theorem step_askedWith {m : Move} (ht : s.step m = some t)
    (own : s.profile.endpoint.headers = hs) (h : s.AskedWith hs) : t.AskedWith hs := by
  have deed := step_deed ht
  generalize s.events m = es at deed
  cases deed with
  | called _ deed =>
      cases deed with
      | attempted _ hd =>
          rw [AskedWith, onCallProgress_links]
          exact hd.askedWith own h
      | _ => exact h
  | cutOff => exact forall_abortWorker (fun _ hl => hl) h
  | worked deed => exact deed.askedWith own h
  | answered => exact h.onLink _ fun _ => rfl
  | arrived => exact h.onLink _ fun _ => rfl
  | _ => exact h

theorem Run.askedWith {ms : List Move} (run : Run s ms t)
    (own : s.profile.endpoint.headers = hs) (h : s.AskedWith hs) : t.AskedWith hs := by
  induction run with
  | nil _ => exact h
  | cons first _ ih => exact ih (step_profile first ▸ own) (step_askedWith first own h)

end Stream.Session

open Rest (Options Client) in
theorem environments_apart {base e : Endpoint} (overrides : base.Overrides e) :
    (∀ {timeout : Nat} {headers : List (String × String)} {retry : Rest.Retry}
        {credentials : Option Credentials} {c : Client},
      { Options.ofEndpoint e with timeout, headers, retry, credentials }.build = .ok c →
        (∀ ask r, c.Sends ask r → r.carried Signature.simulatedHeader
          = if base.simulated then ["1"]
            else (Options.configured headers Signature.simulatedHeader).toList) ∧
        ∀ (time : Rest.TimeSync) (sent received : Int) (w : Client.Surroundings),
          ∃ tries : List Client.Try, (∀ t ∈ tries, c.Sends .serverTime t.request) ∧
            (time.sync c sent received w).2.2.server.received
              = w.server.received ++ tries.filterMap Client.Try.seen) ∧
      ∀ {p : Stream.Profile} {seconds : List Int} {draws : List Float} {ms : List Stream.Move}
        {t : Stream.Session},
        p.endpoint = e → Stream.Session.Run (.initial p seconds draws) ms t →
          ∀ l ∈ t.links, l.headers
            = if base.simulated then [(Signature.simulatedHeader, "1")] else [] := by
  refine ⟨fun built => ⟨fun ask r sends => ?_, Client.sync_sends _⟩, fun own run => ?_⟩
  · rw [← overrides.simulated]
    exact sends.mark built
  · rw [← overrides.simulated]
    subst own
    exact run.askedWith rfl fun l hl => absurd hl List.not_mem_nil

def sandbox : Endpoint := (Endpoint.simulation.withRestUrl "http://[::1]/").withPublicUrl "ws://a"

open Rest.Client (forging forger placing placed busy) in
open Stream.Session (replacing) in
theorem sandbox_marked :
    Endpoint.simulation.Overrides sandbox ∧
      (∃ r, forger.Sends placing r ∧ r.carried Signature.simulatedHeader = ["1"]) ∧
      ∃ t, Stream.Session.Run (.initial ⟨sandbox, .standard, .marketData⟩ [] []) replacing t ∧
        t.links.length = 2 ∧ ∀ l ∈ t.links, l.headers = [(Signature.simulatedHeader, "1")] := by
  have overrides : Endpoint.simulation.Overrides sandbox := .market _ (.rest _ .none)
  have built : { Rest.Options.ofEndpoint sandbox with
      timeout := 0, headers := forging.headers, retry := forging.retry,
      credentials := forging.credentials }.build = .ok forger := rfl
  have asked : placing.call? forger = .ok placed := rfl
  obtain ⟨tries, course, _⟩ := Rest.Client.perform_course asked Rest.serverTimes? busy
  obtain ⟨t, ht⟩ := List.exists_mem_of_ne_nil _ course.ne_nil
  have sends : forger.Sends placing t.request := .attempt rfl course ht
  have played : (Stream.Session.play (.initial ⟨sandbox, .standard, .marketData⟩ [] [])
      replacing).map (fun u => u.links.length) = some 2 := rfl
  obtain ⟨u, run, two⟩ := Stream.Session.exists_run _ _ _ played
  exact ⟨overrides, ⟨_, sends, ((environments_apart overrides).1 built).1 _ _ sends⟩,
    u, run, two, (environments_apart overrides).2 rfl run⟩

end MarketWire
