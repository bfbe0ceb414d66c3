import Herald.Dispatch.Service
/-!
# Periodic pruning

A loop that prunes once per period. Its timer ticks at once when it starts
and then once per period; the first tick starts the loop and runs no pass.
A pass whose clock fails ends the loop. Stopping is a request first, and the
loop ends at the next turn at which it takes it up; shutting the dispatcher
down does not stop it.
-/

namespace Herald

/-- Where a pruning loop stands. -/
inductive Phase where
  /-- Its first tick has not come. -/
  | starting
  | running
  /-- It was stopped. -/
  | ended
  /-- Its clock failed. -/
  | dead (fault : ClockFault)
  deriving DecidableEq, Repr

/-- A pruning loop. -/
structure PruneLoop where
  period : Span
  period_pos : 0 < period.toNanos
  stopRequested : Bool
  phase : Phase

/-- Why a loop was not started. -/
inductive PeriodError where
  /-- The period is zero. -/
  | zero
  deriving DecidableEq, Repr

/-- The text of a period error. -/
def PeriodError.message : PeriodError → String
  | .zero => "cleanup period must be greater than 0"

namespace PruneLoop

/-- A loop for a period, unless it is zero. -/
def ofPeriod (period : Span) : Except PeriodError PruneLoop :=
  if h : 0 < period.toNanos then .ok ⟨period, h, false, .starting⟩ else .error .zero

/-- Whether the loop can still do something. -/
def isAlive (l : PruneLoop) : Bool :=
  match l.phase with
  | .starting => true
  | .running => true
  | _ => false

/-- Whether the loop has come to an end. -/
def isFinished (l : PruneLoop) : Bool := !l.isAlive

/-- **A tick.** The first one starts the loop, every later one is a pass. -/
def tick (l : PruneLoop) (s : Service) : PruneLoop × Service :=
  match l.phase with
  | .starting => ({ l with phase := .running }, s)
  | .running =>
    match s.prune with
    | (.ok _, s') => (l, s')
    | (.error f, s') => ({ l with phase := .dead f }, s')
  | _ => (l, s)

/-- The loop is asked to stop. -/
def requestStop (l : PruneLoop) : PruneLoop := { l with stopRequested := true }

/-- A turn at which the loop takes up the request to stop, if there is one. -/
def takeStop (l : PruneLoop) (s : Service) : PruneLoop × Service :=
  if l.stopRequested && l.isAlive then
    ({ l with phase := .ended }, s.report [.pruningStopped])
  else (l, s)

/-- Stops the loop and waits for its end, which its failed clock may have
been. -/
def stop (l : PruneLoop) (s : Service) : Except ClockFault Unit × PruneLoop × Service :=
  let (l', s') := l.requestStop.takeStop s
  match l'.phase with
  | .dead f => (.error f, l', s')
  | _ => (.ok (), l', s')

end PruneLoop

end Herald
