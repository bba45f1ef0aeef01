import MarketWire.Stream.Peer

namespace MarketWire.Stream

namespace Encounter

def firstMove (w : Encounter) : List Move → Option Encounter
  | [] => none
  | m :: ms =>
      match w.session.step m with
      | some session => some { w with session }
      | none => w.firstMove ms

def isOver (c : Call) : Bool :=
  match c.stage with
  | .over _ => true
  | _ => false

def openCalls (w : Encounter) : List Call := w.session.calls.filter fun c => !isOver c

def look (w : Encounter) : List Branch :=
  [.read, .command, .timer].rotateLeft (w.starts.headD 0)

def looked (w : Encounter) : Encounter := { w with starts := w.starts.rotateLeft }

def readyMoves (w : Encounter) : List Move :=
  (w.openCalls.flatMap fun c => [.call c.id .proceed, .call c.id .read])
    ++ .worker .proceed :: w.look.map .worker

def attemptDeadline : Attempt → Option Nat
  | .upgrading _ deadline => some deadline
  | .loggingIn _ deadline => some deadline
  | _ => none

def workerDeadline (w : Encounter) (keepalive : Bool) : Option Nat :=
  match w.session.worker with
  | .waiting _ wakeAt => some wakeAt
  | .attempting _ a => attemptDeadline a
  | .reading _ k => if keepalive then some (k.wakeAt w.session.settings) else none
  | _ => none

def callDeadline (c : Call) : Option (Nat × Move) :=
  match c.stage with
  | .attempting a => (attemptDeadline a).map fun t => (t, .call c.id .timer)
  | .joining _ t => some (t, .cutOff c.id)
  | _ => none

def deadlines (w : Encounter) (keepalive : Bool) : List (Nat × Move) :=
  (w.workerDeadline keepalive).toList.map (fun t => (t, .worker .timer))
    ++ w.openCalls.filterMap callDeadline

def earliest : List (Nat × Move) → Option (Nat × Move)
  | [] => none
  | d :: rest =>
      match earliest rest with
      | some e => if e.1 < d.1 then some e else some d
      | none => some d

def waitOn (w : Encounter) (keepalive : Bool) : Option Encounter :=
  (earliest (w.deadlines keepalive)).map fun d =>
    (w.move (.elapse (d.1 - w.session.now))).move d.2

def advance (w : Encounter) (keepalive : Bool) : Option Encounter :=
  let w := w.react
  match w.firstMove w.readyMoves with
  | some w => some w.looked
  | none => w.waitOn keepalive

def runUntil (keepalive : Bool) (condition : Encounter → Bool) : Nat → Encounter → Encounter
  | 0, w => w
  | n + 1, w =>
      if condition w then w
      else
        match w.advance keepalive with
        | some w => runUntil keepalive condition n w
        | none => w

def patience : Nat := 20000

def isSettled (w : Encounter) : Bool :=
  match w.session.worker with
  | .pushing _ _ _ => false
  | _ => true

def stallTime : Nat := 100000

def settle (w : Encounter) : Encounter :=
  let w := (runUntil false (fun _ => false) patience w).react
  if w.isSettled then w else w.move (.elapse stallTime)

def answerOf (w : Encounter) (id : Nat) : Option Answer :=
  (w.session.call? id).bind fun c =>
    match c.stage with
    | .over a => some a
    | _ => none

def call (w : Encounter) (a : Action) : Encounter × Option Answer :=
  let id := w.session.calls.length
  let w := runUntil false (fun w => (w.answerOf id).isSome) patience (w.move (.invoke a))
  (w, w.answerOf id)

def receiveNow (w : Encounter) : Encounter × Option Answer :=
  let id := w.session.calls.length
  let w := (w.move (.invoke .receive)).move (.call id .proceed)
  match w.answerOf id with
  | some a => (w, some a)
  | none => (w.move (.abandon id), none)

def receiveMany : Nat → Encounter → Encounter × List Message
  | 0, w => (w, [])
  | n + 1, w =>
      match w.call .receive with
      | (w, some (.message m)) =>
          let (w, ms) := receiveMany n w
          (w, m :: ms)
      | (w, _) => (w, [])

def receiveRest : Nat → Encounter → List Message × Bool
  | 0, _ => ([], false)
  | n + 1, w =>
      match w.receiveNow with
      | (w, some (.message m)) =>
          let (ms, ended) := receiveRest n w
          (m :: ms, ended)
      | (_, some .ended) => ([], true)
      | (_, _) => ([], false)

def send (w : Encounter) (c : Cue) : Encounter × Bool :=
  let w := w.react
  match w.peer.contacts.reverse.find? Contact.up with
  | some contact => (w.cue contact.number c, true)
  | none => (w, false)

def sendAll (w : Encounter) : List Cue → Encounter × List Bool
  | [] => (w, [])
  | c :: rest =>
      let (w, sent) := w.send c
      let (w, more) := sendAll w rest
      (w, sent :: more)

end Encounter

inductive Part where
  | call (a : Action)
  | receive
  | receiveStream
  | iterate (count : Nat)
  | isConfirmed (x : Channel.Subscription)
  | describe
  | describeSettings
  | cue (c : Cue)
  | cues (cs : List Cue)
  | untilPinged
  | untilFailed (transports : Nat)
  | untilPhase (p : Phase)
  deriving DecidableEq

inductive Outcome where
  | answer (a : Answer)
  | pending
  | flag (b : Bool)
  | flags (bs : List Bool)
  | text (s : String)
  | messages (ms : List Message)
  deriving DecidableEq

structure Rehearsal where
  encounter : Encounter
  shown : Nat
  streamEnded : Bool

namespace Rehearsal

open Encounter

def ofAnswer : Option Answer → Outcome
  | some a => .answer a
  | none => .pending

def isDeciding (w : Encounter) : Bool :=
  match w.session.worker with
  | .deciding _ _ => true
  | _ => false

def waitUntil (w : Encounter) (condition : Encounter → Bool) : Encounter :=
  runUntil true (fun w => !isDeciding w && condition w) patience w

def play (r : Rehearsal) : Part → Rehearsal × Outcome
  | .call a =>
      let (w, answer) := r.encounter.call a
      ({ r with encounter := w }, ofAnswer answer)
  | .receive =>
      let (w, answer) := r.encounter.receiveNow
      ({ r with encounter := w }, ofAnswer answer)
  | .receiveStream =>
      if r.streamEnded then (r, .answer .ended)
      else
        let (w, answer) := r.encounter.receiveNow
        ({ r with encounter := w, streamEnded := answer == some .ended }, ofAnswer answer)
  | .iterate count =>
      let (w, ms) := receiveMany count r.encounter
      ({ r with encounter := w }, .messages ms)
  | .isConfirmed x => (r, .flag (r.encounter.session.registry.isConfirmed x))
  | .describe => (r, .text r.encounter.session.describe)
  | .describeSettings => (r, .text r.encounter.session.settings.describe)
  | .cue c =>
      let (w, sent) := r.encounter.send c
      ({ r with encounter := w }, .flag sent)
  | .cues cs =>
      let (w, sent) := r.encounter.sendAll cs
      ({ r with encounter := w }, .flags sent)
  | .untilPinged =>
      ({ r with encounter := waitUntil r.encounter fun w => 0 < w.react.peer.pings }, .flag true)
  | .untilFailed transports =>
      ({ r with encounter := waitUntil r.encounter fun w =>
          transports < w.session.links.length || w.session.phase == .closed }, .flag true)
  | .untilPhase p =>
      ({ r with encounter := waitUntil r.encounter fun w => w.session.phase == p }, .flag true)

def settle (r : Rehearsal) : Rehearsal := { r with encounter := r.encounter.settle }

def showLog (r : Rehearsal) : Rehearsal × List (Nat × Entry) :=
  let log := r.encounter.peer.log
  ({ r with shown := log.length }, (log.drop r.shown).mergeSort fun a b => a.1 ≤ b.1)

def start (p : Profile) (seconds : List Int) (peer : Peer) : Rehearsal × Option Answer :=
  let (w, answer) := Encounter.call ⟨Session.initial p seconds [], peer, [0, 1, 2]⟩ .connect
  ({ encounter := w.settle, shown := 0, streamEnded := false }, answer)

end Rehearsal

end MarketWire.Stream
