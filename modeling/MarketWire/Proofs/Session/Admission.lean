import MarketWire.Proofs.Message
import MarketWire.Proofs.Session.Actor

namespace MarketWire.Stream

structure Decisive (content : String) (f : Message.Frame) (e : Message.Event) : Prop where
  read : Message.Frame.read? content = some f
  event : Message.decode content = .ok (.event e)
  kind : e.kind = .login ∨ e.kind = .error

namespace Arrival

inductive Breaks : Arrival → StreamError → Prop where
  | closed (frame : Option (Nat × String)) : Breaks (.close frame) (.ofClose frame)
  | failed (fault : TransportFault) : Breaks (.failure fault) (.ofFault fault)
  | ended : Breaks .endOfStream (.connectionClosed 1006 "Stream ended during login")

def Passes : Arrival → Prop
  | .text content => ∀ f e, ¬Decisive content f e
  | .ping _ => True
  | .pong _ => True
  | .binary => True
  | _ => False

end Arrival

inductive Decides (late : StreamError) (heard : List Arrival) : Except StreamError Unit → Prop where
  | welcomed {before after : List Arrival} {content : String} {f : Message.Frame}
      {e : Message.Event} :
      heard = before ++ .text content :: after → (∀ a ∈ before, a.Passes) →
      Decisive content f e → e.kind = .login → f.IsClear → Decides late heard (.ok ())
  | rejected {before after : List Arrival} {content : String} {f : Message.Frame}
      {e : Message.Event} :
      heard = before ++ .text content :: after → (∀ a ∈ before, a.Passes) →
      Decisive content f e → ¬(e.kind = .login ∧ f.IsClear) →
      Decides late heard (.error (.loginFailed (e.code.getD "") (e.msg.getD "")))
  | broken {before after : List Arrival} {a : Arrival} {e : StreamError} :
      heard = before ++ a :: after → (∀ a ∈ before, a.Passes) → a.Breaks e →
      Decides late heard (.error e)
  | overdue : (∀ a ∈ heard, a.Passes) → Decides late heard (.error late)

theorem Arrival.Breaks.isAuth {a : Arrival} {e : StreamError} (h : a.Breaks e) :
    e.isAuth = false := by
  cases h with
  | closed frame =>
      cases frame with
      | none => rfl
      | some frame => rfl
  | failed fault => cases fault <;> rfl
  | ended => rfl

open Session (loginVerdict)

variable {content : String} {f : Message.Frame} {e : Message.Event} {a : Arrival}
  {o : Except StreamError Unit} {late : StreamError} {as : List Arrival}

theorem isSuccess_of_login (kind : e.kind = .login) :
    e.isSuccess = true ↔ e.code = none ∨ e.code = some Message.successCode := by
  rw [Message.Event.isSuccess, kind]
  cases e.code <;> simp

theorem isClear_of_decisive (h : Decisive content f e) (kind : e.kind = .login) :
    f.IsClear ↔ e.isSuccess = true := by
  obtain ⟨f', read, code⟩ := Message.exists_frame h.event
  cases Option.some.inj (read.symm.trans h.read)
  rw [Message.Frame.isClear_iff, code, isSuccess_of_login kind]

theorem loginVerdict_welcomed (h : Decisive content f e) (kind : e.kind = .login)
    (clear : f.IsClear) : loginVerdict content = some (.ok ()) := by
  simp only [loginVerdict, h.event]
  exact if_pos ⟨kind, (isClear_of_decisive h kind).mp clear⟩

theorem loginVerdict_rejected (h : Decisive content f e) (unclear : ¬(e.kind = .login ∧ f.IsClear)) :
    loginVerdict content
      = some (.error (.loginFailed (e.code.getD "") (e.msg.getD ""))) := by
  have refused : ¬(e.kind = .login ∧ e.isSuccess = true) := fun success =>
    unclear ⟨success.1, (isClear_of_decisive h success.1).mpr success.2⟩
  simp only [loginVerdict, h.event]
  rw [if_neg refused, if_pos h.kind]

theorem exists_decisive (h : loginVerdict content = some o) : ∃ f e, Decisive content f e := by
  rw [loginVerdict] at h
  split at h
  · next e decoded =>
      obtain ⟨f, read, _⟩ := Message.exists_frame decoded
      refine ⟨f, e, read, decoded, ?_⟩
      split at h
      · next success => exact Or.inl success.1
      · split at h
        · next kind => exact kind
        · cases h
  · cases h

def Arrival.verdict? : Arrival → Option (Except StreamError Unit)
  | .text content => loginVerdict content
  | .close frame => some (.error (.ofClose frame))
  | .failure fault => some (.error (.ofFault fault))
  | .endOfStream => some (.error (.connectionClosed 1006 "Stream ended during login"))
  | _ => none

theorem Arrival.passes_iff : a.Passes ↔ a.verdict? = none := by
  cases a with
  | text content =>
      simp only [Arrival.Passes, Arrival.verdict?]
      constructor
      · intro passes
        cases h : loginVerdict content with
        | none => rfl
        | some o =>
            obtain ⟨f, e, decisive⟩ := exists_decisive h
            exact absurd decisive (passes f e)
      · intro none f e decisive
        by_cases clear : e.kind = .login ∧ f.IsClear
        · rw [loginVerdict_welcomed decisive clear.1 clear.2] at none
          cases none
        · rw [loginVerdict_rejected decisive clear] at none
          cases none
  | ping payload => exact iff_of_true trivial rfl
  | pong payload => exact iff_of_true trivial rfl
  | binary => exact iff_of_true trivial rfl
  | close frame => exact iff_of_false id nofun
  | failure fault => exact iff_of_false id nofun
  | endOfStream => exact iff_of_false id nofun

theorem Arrival.Breaks.verdict? {err : StreamError} (h : a.Breaks err) :
    a.verdict? = some (.error err) := by
  cases h <;> rfl

def loginOutcome (late : StreamError) (as : List Arrival) : Except StreamError Unit :=
  (as.findSome? Arrival.verdict?).getD (.error late)

theorem loginOutcome_of_first {before after : List Arrival} (parts : as = before ++ a :: after)
    (passes : ∀ b ∈ before, b.verdict? = none) (decided : a.verdict? = some o) :
    loginOutcome late as = o := by
  have first : as.findSome? Arrival.verdict? = some o :=
    List.findSome?_eq_some_iff.mpr ⟨before, a, after, parts, decided, passes⟩
  rw [loginOutcome, first]
  rfl

theorem loginOutcome_of_none (passes : ∀ b ∈ as, b.verdict? = none) :
    loginOutcome late as = .error late := by
  rw [loginOutcome, List.findSome?_eq_none_iff.mpr passes]
  rfl

theorem decides_iff : Decides late as o ↔ loginOutcome late as = o := by
  have unseen : ∀ {bs : List Arrival}, (∀ a ∈ bs, a.Passes) → ∀ a ∈ bs, a.verdict? = none :=
    fun passes a ha => Arrival.passes_iff.mp (passes a ha)
  constructor
  · intro decides
    cases decides with
    | welcomed parts passes decisive kind clear =>
        exact loginOutcome_of_first parts (unseen passes) (loginVerdict_welcomed decisive kind clear)
    | rejected parts passes decisive unclear =>
        exact loginOutcome_of_first parts (unseen passes) (loginVerdict_rejected decisive unclear)
    | broken parts passes breaks =>
        exact loginOutcome_of_first parts (unseen passes) breaks.verdict?
    | overdue passes => exact loginOutcome_of_none (unseen passes)
  · rintro rfl
    rw [loginOutcome]
    cases first : as.findSome? Arrival.verdict? with
    | none =>
        exact .overdue fun a ha => Arrival.passes_iff.mpr (List.findSome?_eq_none_iff.mp first a ha)
    | some o =>
        obtain ⟨before, a, after, parts, decided, none⟩ := List.findSome?_eq_some_iff.mp first
        have passes : ∀ a ∈ before, a.Passes := fun a ha => Arrival.passes_iff.mpr (none a ha)
        rw [Option.getD_some]
        cases a with
        | text content =>
            obtain ⟨f, e, decisive⟩ := exists_decisive decided
            by_cases clear : e.kind = .login ∧ f.IsClear
            · cases (loginVerdict_welcomed decisive clear.1 clear.2).symm.trans decided
              exact .welcomed parts passes decisive clear.1 clear.2
            · cases (loginVerdict_rejected decisive clear).symm.trans decided
              exact .rejected parts passes decisive clear
        | close frame =>
            cases decided
            exact .broken parts passes (.closed frame)
        | failure fault =>
            cases decided
            exact .broken parts passes (.failed fault)
        | endOfStream =>
            cases decided
            exact .broken parts passes .ended
        | _ => cases decided

theorem Decides.append {bs : List Arrival} (h : Decides late as o)
    (settled : (∃ a ∈ as, ¬a.Passes) ∨ bs = []) : Decides late (as ++ bs) o := by
  rcases settled with ⟨a, ha, seen⟩ | rfl
  · rw [decides_iff, loginOutcome] at h ⊢
    rw [List.findSome?_append]
    cases first : as.findSome? Arrival.verdict? with
    | none => exact absurd (Arrival.passes_iff.mpr (List.findSome?_eq_none_iff.mp first a ha)) seen
    | some o' =>
        rw [first] at h
        exact h
  · rwa [List.append_nil]

namespace Session

variable {s t u v : Session} {w : Actor} {n d : Nat} {b : Branch} {m : Move} {ms : List Move}

def arrived (s : Session) (n : Nat) (ms : List Move) : List Arrival :=
  s.unread n ++ ms.flatMap (Move.brings n)

def Concludes (t : Session) (w : Actor) (n : Nat) : Except StreamError Unit → Prop
  | .ok () => t.attemptBy w = some (.connected n) ∧ t.phase = .ready
  | .error e => t.attemptBy w = none ∧ t.failureBy w = some e

theorem Concludes.ended (h : t.Concludes w n o) : t.attemptBy w ≠ some (.loggingIn n d) := by
  intro goes
  cases o with
  | ok _ =>
      rw [h.1] at goes
      cases goes
  | error e =>
      rw [h.1] at goes
      cases goes

def answerPing (s : Session) (n : Nat) : Arrival → Session
  | .ping payload => s.write n (.pong payload)
  | _ => s

theorem onLoginArrival_eq (s : Session) (n d : Nat) (a : Arrival) :
    s.onLoginArrival n d a =
      match a.verdict? with
      | some (.ok ()) => (s.withPhase .ready, .more (.connected n))
      | some (.error e) => s.failAttempt n e
      | none => (s.answerPing n a, .more (.loggingIn n d)) := by
  cases a with
  | text content =>
      rw [onLoginArrival, Arrival.verdict?]
      rcases loginVerdict content with _ | (_ | _) <;> rfl
  | _ => rfl

theorem answerPing_unread (s : Session) (n : Nat) (a : Arrival) :
    (s.answerPing n a).unread n = s.unread n := by
  cases a with
  | ping payload => exact unread_onLink (fun _ => rfl) fun _ => rfl
  | _ => rfl

inductive LoginStep (w : Actor) (n d : Nat) (s t : Session) : Prop where
  | passed {a : Arrival} :
      s.unread n = a :: t.unread n → a.verdict? = none → t.attemptBy w = some (.loggingIn n d) →
      LoginStep w n d s t
  | decided {a : Arrival} {rest : List Arrival} {o : Except StreamError Unit} :
      s.unread n = a :: rest → a.verdict? = some o → t.Concludes w n o → LoginStep w n d s t
  | overdue :
      s.unread n = [] → d ≤ s.now → t.Concludes w n (.error s.loginTimeout) → LoginStep w n d s t

theorem step_login (making : s.attemptBy w = some (.loggingIn n d))
    (ht : s.step (w.move b) = some t) : LoginStep w n d s t := by
  obtain ⟨s', p, attempted, resumed⟩ := own_step making ht
  cases b with
  | read =>
      obtain ⟨⟨a, s₁⟩, taken, same⟩ := Option.map_eq_some_iff.mp attempted
      have left := nextArrival_unread taken
      rw [onLoginArrival_eq] at same
      split at same
      · next decided =>
          cases same
          exact .decided left decided ⟨resumed.attempt, resumed.phase _ rfl⟩
      · next e decided =>
          cases same
          exact .decided left decided ⟨resumed.attempt, resumed.failure _ rfl⟩
      · next none =>
          cases same
          refine .passed ?_ none resumed.attempt
          rw [unread_of_links resumed.links, answerPing_unread]
          exact left
  | timer =>
      simp only [attemptStep] at attempted
      split at attempted
      · next due =>
          cases attempted
          exact .overdue (isQuiet_iff.mp due.2) due.1 ⟨resumed.attempt, resumed.failure _ rfl⟩
      · cases attempted
  | _ => cases attempted

inductive LoginRun (w : Actor) (n d : Nat) : Session → List Move → Session → Prop where
  | nil {s : Session} : s.attemptBy w = some (.loggingIn n d) → LoginRun w n d s [] s
  | cons {s t u : Session} {m : Move} {ms : List Move} :
      s.attemptBy w = some (.loggingIn n d) → s.step m = some t → LoginRun w n d t ms u →
      LoginRun w n d s (m :: ms) u

namespace LoginRun

theorem first (login : LoginRun w n d s ms t) : s.attemptBy w = some (.loggingIn n d) := by
  cases login with
  | nil making => exact making
  | cons making => exact making

theorem last (login : LoginRun w n d s ms t) : t.attemptBy w = some (.loggingIn n d) := by
  induction login with
  | nil making => exact making
  | cons _ _ _ ih => exact ih

theorem run (login : LoginRun w n d s ms t) : Run s ms t := by
  induction login with
  | nil _ => exact .nil _
  | cons _ step _ ih => exact .cons step ih

theorem append {ns : List Move} (login : LoginRun w n d s ms t) (rest : LoginRun w n d t ns u) :
    LoginRun w n d s (ms ++ ns) u := by
  induction login with
  | nil _ => exact rest
  | cons making step _ ih => exact .cons making step (ih rest)

theorem orderly (login : LoginRun w n d s ms t) (ho : s.Orderly) : t.Orderly := by
  induction login with
  | nil _ => exact ho
  | cons _ step _ ih => exact ih (ho.step step)

theorem split (run : Run s ms t) (making : s.attemptBy w = some (.loggingIn n d)) :
    LoginRun w n d s ms t ∨
      ∃ before m after u v, ms = before ++ m :: after ∧ LoginRun w n d s before u ∧
        u.step m = some v ∧ v.attemptBy w ≠ some (.loggingIn n d) ∧ Run v after t := by
  induction run with
  | nil s => exact Or.inl (.nil making)
  | @cons s v t m ms step rest ih =>
      by_cases goes : v.attemptBy w = some (.loggingIn n d)
      · rcases ih goes with login | ⟨before, m', after, u, v', rfl, login, ended⟩
        · exact Or.inl (.cons making step login)
        · exact Or.inr ⟨m :: before, m', after, u, v', rfl, .cons making step login, ended⟩
      · exact Or.inr ⟨[], m, ms, s, v, rfl, .nil making, step, goes, rest⟩

theorem read (login : LoginRun w n d s ms t) (ho : s.Orderly) :
    ∃ read, s.arrived n ms = read ++ t.unread n ∧ ∀ a ∈ read, a.verdict? = none := by
  induction login with
  | @nil s _ => exact ⟨[], List.append_nil _, fun _ ha => absurd ha List.not_mem_nil⟩
  | @cons s v t m ms making step rest ih =>
      obtain ⟨read, parts, passed⟩ := ih (ho.step step)
      -- Only the maker reads; what others do is seen on the transport as arrivals at its end.
      by_cases own : ∃ b, m = w.move b
      · obtain ⟨b, rfl⟩ := own
        have none : (w.move b :: ms).flatMap (Move.brings n) = ms.flatMap (Move.brings n) := by
          cases w <;> rfl
        cases step_login making step with
        | @passed a left unseen =>
            refine ⟨a :: read, ?_, ?_⟩
            · rw [arrived, left, none, List.cons_append]
              exact congrArg (a :: ·) parts
            · intro a' ha
              rcases List.mem_cons.mp ha with rfl | ha
              · exact unseen
              · exact passed a' ha
        | decided _ _ concludes => exact absurd rest.first concludes.ended
        | overdue _ _ concludes => exact absurd rest.first concludes.ended
      · have uncut : ∀ id, m ≠ .cutOff id := by
          rintro id rfl
          have goes := rest.first
          rw [(step_cutOff ho making step).ended] at goes
          cases goes
        have beside := step_others ho making (fun b same => own ⟨b, same⟩) uncut step
        refine ⟨read, ?_, passed⟩
        rw [← parts, arrived, arrived, beside.unread, List.append_assoc]
        rfl

end LoginRun

structure LoginEnd (w : Actor) (n d : Nat) (s : Session) (as : List Arrival) (u v : Session)
    (o : Except StreamError Unit) : Prop where
  concludes : v.Concludes w n o
  decided : ∀ o', Decides s.loginTimeout as o' ↔ o' = o
  due : (∀ a ∈ as, a.Passes) → d ≤ u.now
  passing : ∀ e, o = .error e → (e.isAuth = false ↔
    ∃ before a after, as = before ++ a :: after ∧ (∀ b ∈ before, b.Passes) ∧ a.Breaks e)

theorem passing_iff {e : StreamError} (decides : Decides late as (.error e))
    (auth : late.isAuth = true) :
    e.isAuth = false ↔
      ∃ before a after, as = before ++ a :: after ∧ (∀ b ∈ before, b.Passes) ∧ a.Breaks e := by
  constructor
  · intro passing
    cases decides with
    | rejected => cases passing
    | broken parts passes breaks => exact ⟨_, _, _, parts, passes, breaks⟩
    | overdue =>
        rw [auth] at passing
        cases passing
  · rintro ⟨_, a, _, _, _, breaks⟩
    exact breaks.isAuth

theorem LoginRun.ends (login : LoginRun w n d s ms u) (ho : s.Orderly) (ht : u.step m = some v)
    (gone : v.attemptBy w ≠ some (.loggingIn n d)) :
    CutShort w m v ∨ ∃ b o, m = w.move b ∧ LoginEnd w n d s (s.arrived n ms) u v o := by
  by_cases cut : ∃ id, m = .cutOff id
  · obtain ⟨id, rfl⟩ := cut
    exact Or.inl (step_cutOff (login.orderly ho) login.last ht)
  refine Or.inr ?_
  obtain ⟨read, parts, passed⟩ := login.read ho
  have late : u.loginTimeout = s.loginTimeout := by
    rw [loginTimeout, loginTimeout, settings, settings, login.run.profile]
  by_cases own : ∃ b, m = w.move b
  · obtain ⟨b, rfl⟩ := own
    have ended : ∀ {o}, v.Concludes w n o → loginOutcome s.loginTimeout (s.arrived n ms) = o →
        ((∀ a ∈ s.arrived n ms, a.Passes) → d ≤ u.now) →
          LoginEnd w n d s (s.arrived n ms) u v o := by
      intro o concludes outcome due
      refine ⟨concludes, fun o' => ?_, due, fun e same => ?_⟩
      · rw [decides_iff, outcome]
        exact eq_comm
      · exact passing_iff (decides_iff.mpr (outcome.trans same)) rfl
    cases step_login login.last ht with
    | passed _ _ goes => exact absurd goes gone
    | @decided a rest o left decided concludes =>
        rw [left] at parts
        refine ⟨b, o, rfl, ended concludes (loginOutcome_of_first parts passed decided) ?_⟩
        intro passes
        have unseen := Arrival.passes_iff.mp (passes a (by rw [parts]; simp))
        rw [unseen] at decided
        cases decided
    | overdue quiet due concludes =>
        rw [quiet, List.append_nil] at parts
        rw [late] at concludes
        exact ⟨b, _, rfl, ended concludes (loginOutcome_of_none (parts ▸ passed)) fun _ => due⟩
  · have beside := step_others (login.orderly ho) login.last (fun b same => own ⟨b, same⟩)
      (fun id same => cut ⟨id, same⟩) ht
    exact absurd (beside.attempt.trans login.last) gone

theorem LoginRun.settles {ns : List Move} (login : LoginRun w n d s ms u) (ho : s.Orderly)
    (decides : Decides s.loginTimeout (s.arrived n ms) o)
    (settled : (∃ a ∈ s.arrived n ms, ¬a.Passes) ∨ ∀ m ∈ ns, m.brings n = [])
    (rest : LoginRun w n d u ns v) (ht : v.step m = some t)
    (gone : t.attemptBy w ≠ some (.loggingIn n d)) : CutShort w m t ∨ t.Concludes w n o := by
  rcases (login.append rest).ends ho ht gone with cut | ⟨b, o', _, ended⟩
  · exact Or.inl cut
  refine Or.inr ?_
  have more : s.arrived n (ms ++ ns) = s.arrived n ms ++ ns.flatMap (Move.brings n) := by
    rw [arrived, arrived, List.flatMap_append, List.append_assoc]
  have all : Decides s.loginTimeout (s.arrived n (ms ++ ns)) o := by
    rw [more]
    exact decides.append (settled.imp id List.flatMap_eq_nil_iff.mpr)
  rw [(ended.decided o).mp all]
  exact ended.concludes

def greeting : List Move :=
  [.arrive 1 (.text "pong"), .arrive 1 (.text "\x7b\"event\":\"notice\"\x7d"), .call 0 .read,
    .arrive 1 (.text "\x7b\"event\":\"login\",\"code\":0\x7d"), .call 0 .read, .call 0 .read]

end Session

end MarketWire.Stream
