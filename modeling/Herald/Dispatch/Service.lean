import Herald.Dispatch.Dispatcher
/-!
# The running service

A dispatcher together with its clock, the sends it has handed to the
background, and everything it has reported and posted so far. A command is
one step of it: a call from outside, one turn of a background send, or an
outcome that comes in. `step` gives the answer and the next state, so a run
is a fold, and steps of different callers can follow each other in any order.

A background send is first queued. At each of its turns it first looks
whether the service was shut down, then whether its caller's token has
fired, and only then goes on: its first turn posts the request, and a later
one ends the send with the outcome that has come in.
-/

namespace Herald

/-- Where a background send stands. -/
inductive Stage where
  /-- It has not had a turn. -/
  | queued
  /-- Its request is out; the outcome may have come in. -/
  | posted (outcome : Option Outcome)
  deriving DecidableEq, Repr

/-- A background send. -/
structure Send where
  /-- Its number, in the order of handing over. -/
  number : Nat
  notice : Notice
  /-- The token that can cancel it, if its caller holds one. -/
  token : Option String
  stage : Stage
  deriving DecidableEq, Repr

/-- A posted request. -/
structure Request where
  /-- The background send it belongs to; a direct send has none. -/
  send : Option Nat
  endpoint : Endpoint
  body : String
  deriving DecidableEq, Repr

/-- A filter result, as the notifier sees it. -/
structure RuleMatch where
  host : String
  /-- The texts of the rules that matched, in order. -/
  rules : List String
  reason : Reason
  clientAddress : Address
  clientName : Option String
  deriving DecidableEq, Repr

/-- What became of a filter result. -/
inductive MatchOutcome where
  | noRules
  | rateLimited (scope : Scope)
  | dispatched
  deriving DecidableEq, Repr

/-- A match outcome as it is written in full. -/
def MatchOutcome.describe : MatchOutcome → String
  | .noRules => "NoRules"
  | .rateLimited s => "RateLimited(" ++ s.name ++ ")"
  | .dispatched => "Dispatched"

/-- The state of the service. -/
structure Service where
  dispatcher : Dispatcher
  clock : Clock
  /-- Background sends that have not ended, oldest first. -/
  pending : List Send
  /-- How many sends have been handed to the background. -/
  handedOver : Nat
  /-- The tokens that have fired. -/
  fired : List String
  /-- Everything reported so far, oldest first. -/
  log : List LogEvent
  /-- Everything posted so far, oldest first. -/
  requests : List Request

/-- One step of the service. -/
inductive Command where
  /-- The clock moves forward. -/
  | advance (d : Span)
  /-- The clock moves to an offset from its start. -/
  | setOffset (d : Span)
  /-- The next reading of the clock fails. -/
  | failNext
  /-- A check of both gates. -/
  | check (domain : String)
  /-- A filter result; the time is that of the wall clock. -/
  | handle (m : RuleMatch) (time : Timestamp)
  /-- A prune of the domain windows. -/
  | prune
  /-- A send that is waited for, with its outcome. -/
  | send (n : Notice) (outcome : Outcome)
  /-- A send that is handed to the background. -/
  | sendLater (n : Notice) (token : Option String)
  /-- A caller's token fires. -/
  | cancel (token : String)
  /-- The shutdown. -/
  | shutDown
  /-- A turn of a background send. -/
  | turn (number : Nat)
  /-- An outcome comes in for a background send. -/
  | deliver (number : Nat) (outcome : Outcome)

/-- The answer to a command. -/
inductive Answer where
  | done
  | fault (f : ClockFault)
  | admission (a : Admission)
  | matched (o : MatchOutcome)
  | removed (n : Nat)
  | sent (r : Except SendError Unit)

namespace Service

/-- A service that has not done anything. -/
def ofDispatcher (d : Dispatcher) : Service where
  dispatcher := d
  clock := .fresh
  pending := []
  handedOver := 0
  fired := []
  log := []
  requests := []

/-- Reports events. -/
def report (s : Service) (es : List LogEvent) : Service := { s with log := s.log ++ es }

/-! ## Calls -/

/-- A move of the clock. -/
def move (s : Service) (r : Except ClockFault Unit × Clock) : Answer × Service :=
  match r with
  | (.ok (), c) => (.done, { s with clock := c })
  | (.error f, c) => (.fault f, { s with clock := c })

/-- A check of both gates. -/
def check (s : Service) (domain : String) : Except ClockFault Admission × Service :=
  match s.dispatcher.check domain s.clock with
  | (r, d, c) => (r, { s with dispatcher := d, clock := c })

/-- Hands a notice to the background, or drops it after the shutdown. -/
def sendLater (s : Service) (n : Notice) (token : Option String) : Service :=
  if s.dispatcher.isShutDown then
    { s with dispatcher := s.dispatcher.countCancelled }.report [.dropped n.domain]
  else
    { s with
      pending := s.pending ++ [⟨s.handedOver, n, token, .queued⟩]
      handedOver := s.handedOver + 1 }

/-- The notice about a match, by its first rule. -/
def noticeOf (m : RuleMatch) (rule : String) (time : Timestamp) : Notice where
  domain := m.host
  ruleText := rule
  reason := m.reason
  clientAddress := m.clientAddress
  clientName := m.clientName
  time := time

/-- A filter result. Without a rule nothing is considered, and of several
rules the first one counts. -/
def handle (s : Service) (m : RuleMatch) (time : Timestamp) : Answer × Service :=
  match m.rules with
  | [] => (.matched .noRules, s)
  | rule :: _ =>
    match s.check m.host with
    | (.error f, s') => (.fault f, s')
    | (.ok (.blocked scope), s') =>
      (.matched (.rateLimited scope), s'.report [.rateLimited m.host scope])
    | (.ok .admitted, s') =>
      let n := noticeOf m rule time
      (.matched .dispatched,
        (s'.report [.sending n.domain n.ruleText n.reason]).sendLater n none)

/-- A prune of the domain windows. -/
def prune (s : Service) : Except ClockFault Nat × Service :=
  match s.dispatcher.prune s.clock with
  | (.ok (n, es), d, c) => (.ok n, { s with dispatcher := d, clock := c }.report es)
  | (.error f, d, c) => (.error f, { s with dispatcher := d, clock := c })

/-- A send that is waited for. Its request is posted if it can be made, and
its outcome is the one given. -/
def sendNow (s : Service) (n : Notice) (outcome : Outcome) : Except SendError Unit × Service :=
  match s.dispatcher.request n with
  | .error e =>
    let (es, d) := s.dispatcher.concludeSend n (.error e)
    (.error e, { s with dispatcher := d }.report es)
  | .ok (endpoint, body) =>
    let r := outcome.result endpoint
    let (es, d) := s.dispatcher.concludeSend n r
    (r, { s with
      dispatcher := d
      requests := s.requests ++ [Request.mk none endpoint body] }.report es)

/-- The shutdown. -/
def shutDown (s : Service) : Service :=
  let (es, d) := s.dispatcher.shutDown
  { s with dispatcher := d }.report es

/-! ## Background sends -/

/-- A pending send. -/
def pending? (s : Service) (number : Nat) : Option Send :=
  s.pending.find? fun p => p.number == number

/-- The pending sends without one of them. -/
def without (s : Service) (number : Nat) : List Send :=
  s.pending.filter fun p => p.number != number

/-- Changes the stage of a pending send. -/
def setStage (s : Service) (number : Nat) (stage : Stage) : List Send :=
  s.pending.map fun p => if p.number = number then { p with stage := stage } else p

/-- Whether a send is to be given up: the service was shut down, or the
send's token has fired. -/
def isGivenUp (s : Service) (p : Send) : Bool :=
  s.dispatcher.isShutDown || p.token.any fun t => s.fired.contains t

/-- Ends a background send with a result. -/
def finish (s : Service) (p : Send) (r : Except SendError Unit) : Service :=
  let (es, d) := s.dispatcher.concludeSend p.notice r
  let failure := match r with
    | .ok () => []
    | .error e => [LogEvent.sendFailed p.notice.domain e.message]
  { s with dispatcher := d, pending := s.without p.number }.report (es ++ failure)

/-- Ends a background send that is given up. -/
def giveUp (s : Service) (p : Send) : Service :=
  { s with
    dispatcher := s.dispatcher.countCancelled
    pending := s.without p.number }.report [.cancelled p.notice.domain]

/-- **One turn of a background send.** -/
def turn (s : Service) (number : Nat) : Service :=
  match s.pending? number with
  | none => s
  | some p =>
    if s.isGivenUp p then s.giveUp p
    else
      match s.dispatcher.request p.notice, p.stage with
      | .error e, _ => s.finish p (.error e)
      | .ok (endpoint, body), .queued =>
        { s with
          pending := s.setStage number (.posted none)
          requests := s.requests ++ [Request.mk (some number) endpoint body] }
      | .ok _, .posted none => s
      | .ok (endpoint, _), .posted (some o) => s.finish p (o.result endpoint)

/-- An outcome comes in for a send whose request is out and has none yet. -/
def deliver (s : Service) (number : Nat) (outcome : Outcome) : Service :=
  match s.pending? number with
  | some p =>
    if p.stage = .posted none then
      { s with pending := s.setStage number (.posted (some outcome)) }
    else s
  | none => s

/-! ## Steps and runs -/

/-- **One step of the service.** -/
def step (s : Service) : Command → Answer × Service
  | .advance d => s.move (s.clock.advance d)
  | .setOffset d => s.move (s.clock.setOffset d)
  | .failNext => (.done, { s with clock := s.clock.failNext })
  | .check domain =>
    match s.check domain with
    | (.ok a, s') => (.admission a, s')
    | (.error f, s') => (.fault f, s')
  | .handle m time => s.handle m time
  | .prune =>
    match s.prune with
    | (.ok n, s') => (.removed n, s')
    | (.error f, s') => (.fault f, s')
  | .send n outcome =>
    let (r, s') := s.sendNow n outcome
    (.sent r, s')
  | .sendLater n token => (.done, s.sendLater n token)
  | .cancel token => (.done, { s with fired := token :: s.fired })
  | .shutDown => (.done, s.shutDown)
  | .turn number => (.done, s.turn number)
  | .deliver number outcome => (.done, s.deliver number outcome)

/-- A run of commands, with the answer to each. -/
def run (s : Service) : List Command → List Answer × Service
  | [] => ([], s)
  | c :: cs =>
    let (a, s') := s.step c
    let (as, s'') := s'.run cs
    (a :: as, s'')

end Service

end Herald
