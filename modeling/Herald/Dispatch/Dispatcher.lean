import Herald.Dispatch.Counters
import Herald.Dispatch.Log
import Herald.Push.Form
import Herald.Push.Message
import Herald.Push.Outcome
import Herald.Rate.DomainGate
import Herald.Rate.GlobalGate
/-!
# The dispatcher

The two gates, the counters and the lifecycle of the notifier. A check asks
the global gate first and the domain's gate only behind it; each asks in one
step with its own reading of the clock, and nothing is held between the two
steps. A denial by the domain's gate does not give the global admission back.
What a gate makes of a step that gets no reading is the gate's affair: the
dispatcher takes the gate as the step leaves it, and counts nothing.
-/

namespace Herald

/-- The state of a notifier. -/
structure Dispatcher where
  settings : Settings
  /-- The product's name at the start of every title. -/
  product : String
  /-- Where messages are posted to, as configured. -/
  endpoint : String
  globalGate : GlobalGate
  domainGate : DomainGate
  counters : Counters
  isShutDown : Bool

namespace Dispatcher

/-- The product's name, unless another is given. -/
def defaultProduct : String := "AdGuard"

/-- The public endpoint of the push service. -/
def defaultEndpoint : String := "https://api.pushover.net/1/messages.json"

/-- A notifier that has not done anything. -/
def ofSettings (s : Settings) (product endpoint : String) : Dispatcher where
  settings := s
  product := product
  endpoint := endpoint
  globalGate := .ofRate s.globalRate
  domainGate := .ofRate s.domainRate
  counters := .zero
  isShutDown := false

/-- The least time between two notifications for one domain. -/
def domainSpacing (d : Dispatcher) : Span := d.domainGate.spacing

/-- The least time between any two notifications. -/
def globalSpacing (d : Dispatcher) : Span := d.globalGate.spacing

/-- How many domains have a window. -/
def tracked (d : Dispatcher) : Nat := d.domainGate.size

/-- The notifier after a check that has failed at its global gate. -/
def poison (d : Dispatcher) : Dispatcher := { d with globalGate := d.globalGate.poison }

/-- The notifier as if no check had ever failed. -/
def heal (d : Dispatcher) : Dispatcher := { d with globalGate := d.globalGate.heal }

/-! ## Starting -/

/-- Why there is no notifier. -/
inductive BuildError where
  /-- There is nothing to run background sends on. -/
  | noRuntime
  deriving DecidableEq, Repr

/-- The text of a build error. -/
def BuildError.message : BuildError → String
  | .noRuntime => "no tokio runtime available to run background sends"

/-- A notifier, where there is something to run background sends on. -/
def build (hasRuntime : Bool) (s : Settings) (product endpoint : String) :
    Except BuildError Dispatcher :=
  if hasRuntime then .ok (ofSettings s product endpoint) else .error .noRuntime

/-- A notifier with all defaults, if the settings want one, and what is
reported about it. -/
def start (s : Settings) : Option Dispatcher × List LogEvent :=
  if s.enabled then
    let d := ofSettings s defaultProduct defaultEndpoint
    (some d, [.enabled d.domainSpacing d.globalSpacing])
  else (none, [.disabled])

/-! ## Checks -/

/-- The global gate has answered. A denial is counted. -/
def noteGlobal (d : Dispatcher) (passed : Bool) (g : GlobalGate) : Dispatcher :=
  if passed then { d with globalGate := g }
  else
    { d with
      globalGate := g
      counters := { d.counters with blockedByGlobal := d.counters.blockedByGlobal + 1 } }

/-- The gate of the domain has answered. Its answer is the answer of the check, and is
counted. -/
def noteDomain (d : Dispatcher) (passed : Bool) (g : DomainGate) : Admission × Dispatcher :=
  if passed then
    (.admitted, { d with
      domainGate := g
      counters := { d.counters with admitted := d.counters.admitted + 1 } })
  else
    (.blocked .domain, { d with
      domainGate := g
      counters := { d.counters with blockedByDomain := d.counters.blockedByDomain + 1 } })

/-- **The first step of a check**: the global gate. -/
def askGlobal (d : Dispatcher) (c : Clock) : Except ClockFault Bool × Dispatcher × Clock :=
  match d.globalGate.checkBy c with
  | (.ok passed, g, c') => (.ok passed, d.noteGlobal passed g, c')
  | (.error f, g, c') => (.error f, { d with globalGate := g }, c')

/-- **The second step of a check**: the gate of the domain. -/
def askDomain (d : Dispatcher) (domain : String) (c : Clock) :
    Except ClockFault Admission × Dispatcher × Clock :=
  match d.domainGate.checkBy domain c with
  | (.ok passed, g, c') =>
    let (answer, d') := d.noteDomain passed g
    (.ok answer, d', c')
  | (.error f, g, c') => (.error f, { d with domainGate := g }, c')

/-- **A check**: both steps, each with its own reading of the clock. A clock that
fails ends it where it stands. -/
def check (d : Dispatcher) (domain : String) (c : Clock) :
    Except ClockFault Admission × Dispatcher × Clock :=
  match d.askGlobal c with
  | (.error f, d', c') => (.error f, d', c')
  | (.ok false, d', c') => (.ok (.blocked .global), d', c')
  | (.ok true, d', c') => d'.askDomain domain c'

/-- The first step of a check at a moment. -/
def passGlobal (d : Dispatcher) (now : Moment) : Bool × Dispatcher :=
  let (passed, g) := d.globalGate.check now
  (passed, d.noteGlobal passed g)

/-- The second step of a check at a moment. -/
def passDomain (d : Dispatcher) (domain : String) (now : Moment) : Admission × Dispatcher :=
  let (passed, g) := d.domainGate.check domain now
  d.noteDomain passed g

/-- How many of some checks in a row are admitted, up to the first that
fails. -/
def checkMany (domain : String) : Nat → Nat → Dispatcher → Clock →
    Except ClockFault Nat × Dispatcher × Clock
  | 0, n, d, c => (.ok n, d, c)
  | k + 1, n, d, c =>
    match d.check domain c with
    | (.error e, d', c') => (.error e, d', c')
    | (.ok a, d', c') => checkMany domain k (if a.isAdmitted then n + 1 else n) d' c'

/-! ## Pruning -/

/-- The windows of the domains have been pruned. The prune itself is reported in any
case, and the number of windows removed if there were any. -/
def notePrune (d : Dispatcher) (removed : Nat) (g : DomainGate) :
    (Nat × List LogEvent) × Dispatcher :=
  let before := d.domainGate.size
  let d := { d with domainGate := g }
  if removed = 0 then ((0, [.pruned before 0]), d)
  else
    ((removed, [.pruned before removed, .removedStale removed]), { d with
      counters := { d.counters with
        windowsPruned := d.counters.windowsPruned + .ofNat removed } })

/-- **A prune** by the clock, with what it reports. -/
def prune (d : Dispatcher) (c : Clock) :
    Except ClockFault (Nat × List LogEvent) × Dispatcher × Clock :=
  match d.domainGate.pruneBy c with
  | (.ok removed, g, c') =>
    let (answer, d') := d.notePrune removed g
    (.ok answer, d', c')
  | (.error f, g, c') => (.error f, { d with domainGate := g }, c')

/-- A prune at a moment. -/
def pruneAt (d : Dispatcher) (now : Moment) : (Nat × List LogEvent) × Dispatcher :=
  let (removed, g) := d.domainGate.prune now
  d.notePrune removed g

/-! ## Sends -/

/-- The request about a notice: where it goes and its body. -/
def request (d : Dispatcher) (n : Notice) : Except SendError (Endpoint × String) :=
  match Endpoint.ofText d.endpoint with
  | .error f => .error (.request (.endpoint f))
  | .ok e => .ok (e, Form.encode (PushMessage.ofNotice d.settings d.product n).fields)

/-- The end of a send that was not cancelled: it is counted, and a success is
reported. -/
def concludeSend (d : Dispatcher) (n : Notice) (result : Except SendError Unit) :
    List LogEvent × Dispatcher :=
  match result with
  | .ok () =>
    ([.sent n.domain n.reason],
      { d with counters := { d.counters with sent := d.counters.sent + 1 } })
  | .error _ => ([], { d with counters := { d.counters with failed := d.counters.failed + 1 } })

/-- A send that was given up is counted. -/
def countCancelled (d : Dispatcher) : Dispatcher :=
  { d with counters := { d.counters with cancelled := d.counters.cancelled + 1 } }

/-- The shutdown. Only the first one is reported. -/
def shutDown (d : Dispatcher) : List LogEvent × Dispatcher :=
  if d.isShutDown then ([], d) else ([.shuttingDown], { d with isShutDown := true })

end Dispatcher

end Herald
