import Herald.Push.Endpoint
/-!
# Outcomes of a send

What comes back for a posted message, and what a send makes of it. A status
of 200 is the only success; another status, or no valid answer at all, is a
failure. A send that is given up while it waits is cancelled.
-/

namespace Herald

/-- What comes back for a request. -/
inductive Outcome where
  /-- A complete answer with a status. -/
  | status (code : Nat)
  /-- No valid answer before the connection ended. -/
  | brokenOff
  /-- No answer in time. -/
  | timedOut
  /-- No connection. -/
  | refused
  deriving DecidableEq, Repr

/-- Why a request failed without a status. -/
inductive RequestFault where
  /-- It could not be made. -/
  | endpoint (fault : EndpointFault)
  /-- There was no connection. -/
  | refused (url : String)
  /-- There was no answer in time. -/
  | timedOut (url : String)
  /-- There was no valid answer. -/
  | brokenOff (url : String)
  deriving DecidableEq, Repr

/-- Why a notification was not delivered. -/
inductive SendError where
  | request (fault : RequestFault)
  | status (code : Nat)
  | cancelled
  deriving DecidableEq, Repr

namespace RequestFault

/-- The text for a request that went wrong on its way. -/
def onTheWay (url : String) : String := "error sending request for url (" ++ url ++ ")"

/-- The text of a request fault. -/
def message : RequestFault → String
  | .endpoint .notAbsolute => "builder error"
  | .endpoint (.unsupported url) => "builder error for url (" ++ url ++ ")"
  | .refused url => onTheWay url
  | .timedOut url => onTheWay url
  | .brokenOff url => onTheWay url

/-- Whether the request could not be made. -/
def isBuilder : RequestFault → Bool
  | .endpoint _ => true
  | _ => false

/-- Whether there was no connection. -/
def isConnect : RequestFault → Bool
  | .refused _ => true
  | _ => false

/-- Whether there was no answer in time. -/
def isTimeout : RequestFault → Bool
  | .timedOut _ => true
  | _ => false

end RequestFault

namespace SendError

/-- The text of a send error. -/
def message : SendError → String
  | .request f => "sending request: " ++ f.message
  | .status code => "pushover returned status " ++ String.ofList (Digits.decimal code)
  | .cancelled => "send cancelled"

/-- Whether another error lies beneath it. -/
def hasSource : SendError → Bool
  | .request _ => true
  | _ => false

end SendError

/-- **What an outcome makes of a send** to an endpoint. -/
def Outcome.result (e : Endpoint) : Outcome → Except SendError Unit
  | .status code => if code = 200 then .ok () else .error (.status code)
  | .brokenOff => .error (.request (.brokenOff e.url))
  | .timedOut => .error (.request (.timedOut e.url))
  | .refused => .error (.request (.refused e.url))

/-- A send succeeds on a status of 200 and on nothing else. -/
theorem Outcome.result_eq_ok_iff {e : Endpoint} {o : Outcome} :
    o.result e = .ok () ↔ o = .status 200 := by
  cases o <;> simp [result]

/-- How the receiver of messages answers. -/
inductive Reply where
  /-- With a status line of this number. -/
  | status (code : Nat)
  /-- By closing the connection. -/
  | close
  /-- With something that is no answer. -/
  | garbage
  /-- Not at all, until it is told to. -/
  | hang
  deriving DecidableEq, Repr

/-- The outcome of an answer with a status line. A number without three
digits is no status, and an interim status is not yet an answer. -/
def Outcome.ofStatus (code : Nat) : Outcome :=
  if code < 100 ∨ 999 < code ∨ (code < 200 ∧ code ≠ 101) then .brokenOff else .status code

/-- The outcome of a reply, unless it is held back. -/
def Reply.outcome? : Reply → Option Outcome
  | .status code => some (.ofStatus code)
  | .close => some .brokenOff
  | .garbage => some .brokenOff
  | .hang => none

/-- The receiver: whether connections to it succeed, and how it answers. -/
structure Sink where
  isReachable : Bool
  reply : Reply
  deriving DecidableEq, Repr

/-- The outcome of a request to a receiver, unless it is held back. -/
def Sink.outcome? (s : Sink) : Option Outcome :=
  if s.isReachable then s.reply.outcome? else some .refused

/-- The outcome of a request that is waited for: held back, it times out. -/
def Sink.finalOutcome (s : Sink) : Outcome := s.outcome?.getD .timedOut

end Herald
