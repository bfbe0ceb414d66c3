import Herald.Dispatch.Service
/-!
# Letting background sends run

How a service behaves while nothing else happens: every pending send has its
turns, and what it posts meets a receiver. A send ends then, unless the
receiver holds its answer back; such a send stays where it is until it is
given up, released or runs out of time.
-/

namespace Herald

namespace Service

/-- One send's turns, as far as they go. A request that is posted now meets
the receiver; one that was held back before stays held back. -/
def settleOne (sink : Sink) (s : Service) (number : Nat) : Service :=
  let isNew := (s.pending? number).any fun p => p.stage == .queued
  let s := s.turn number
  match isNew, sink.outcome? with
  | true, some o => (s.deliver number o).turn number
  | _, _ => s

/-- The turns of every pending send. -/
def settle (sink : Sink) (s : Service) : Service :=
  (s.pending.map (·.number)).foldl (settleOne sink) s

/-- An outcome for everything that is held back, and the turns it allows. -/
def resolveHeld (outcome : Outcome) (s : Service) : Service :=
  (s.pending.map (·.number)).foldl (fun s k => (s.deliver k outcome).turn k) s

/-- Every held request is answered with a status. -/
def release (sink : Sink) (code : Nat) (s : Service) : Service :=
  (s.settle sink).resolveHeld (.ofStatus code)

/-- Every held request runs out of time. -/
def awaitTimeouts (sink : Sink) (s : Service) : Service :=
  (s.settle sink).resolveHeld .timedOut

end Service

end Herald
