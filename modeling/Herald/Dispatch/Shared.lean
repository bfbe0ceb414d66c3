import Herald.Dispatch.Dispatcher
/-!
# A dispatcher shared by callers

Any number of callers use one dispatcher at once, and any step of one of them
can come between two steps of another. A check is two steps, one at each gate,
and a prune is a reading of the clock followed by visits to single entries, in
whatever order. At the gates the clock is read in the step itself; a prune
judges every entry by the one moment it started at, however late it gets to
it. A reading that fails ends the call.
-/

namespace Herald

/-- Where a caller stands. -/
inductive Caller where
  /-- In no call. -/
  | idle
  /-- In a check of a domain, behind the global gate. -/
  | letThrough (domain : String)
  /-- In a prune that started at a moment and has removed so many windows. -/
  | pruning (started : Moment) (removed : Nat)
  deriving DecidableEq, Repr

/-- A dispatcher with its clock and its callers, and a record of what the gates
have let through. -/
structure SharedDispatcher (ι : Type) where
  dispatcher : Dispatcher
  clock : Clock
  caller : ι → Caller
  /-- The readings at which the global gate let a check pass, oldest first. -/
  passes : List Moment
  /-- The admissions, each with the domain and the reading at its gate, oldest
  first. -/
  admissions : List (String × Moment)

/-- One step of one caller, or of the clock. -/
inductive SharedStep (ι : Type) where
  /-- The clock comes to be another one, at the same moment or a later one. -/
  | turnClock (c : Clock)
  /-- A caller in no call begins the check of a domain, at the global gate. -/
  | askGlobal (i : ι) (domain : String)
  /-- A caller behind the global gate is at the gate of its domain. -/
  | askDomain (i : ι)
  /-- A caller in no call begins a prune. -/
  | startPrune (i : ι)
  /-- A caller in a prune visits the entry of a domain. -/
  | visit (i : ι) (domain : String)
  /-- A caller ends its prune. -/
  | endPrune (i : ι)

namespace SharedDispatcher

variable {ι : Type}

/-- A dispatcher that has not done anything, and callers in no call. -/
def begin (d : Dispatcher) (c : Clock) : SharedDispatcher ι where
  dispatcher := d
  clock := c
  caller := fun _ => .idle
  passes := []
  admissions := []

/-- The readings at which a domain was admitted, oldest first. -/
def admissionsOf (w : SharedDispatcher ι) (domain : String) : List Moment :=
  (w.admissions.filter fun a => a.1 = domain).map Prod.snd

variable [DecidableEq ι]

/-- One caller comes to stand somewhere else. -/
def place (w : SharedDispatcher ι) (i : ι) (q : Caller) : ι → Caller :=
  fun j => if j = i then q else w.caller j

/-- The step of a check at the global gate. -/
def askGlobal (w : SharedDispatcher ι) (i : ι) (domain : String) : SharedDispatcher ι :=
  match w.dispatcher.askGlobal w.clock with
  | (.error _, d, c) => { w with dispatcher := d, clock := c }
  | (.ok false, d, c) => { w with dispatcher := d, clock := c }
  | (.ok true, d, c) =>
    { w with
      dispatcher := d
      clock := c
      caller := w.place i (.letThrough domain)
      passes := w.passes ++ [w.clock.time] }

/-- The step of a check at the gate of its domain, which ends the check. -/
def askDomain (w : SharedDispatcher ι) (i : ι) (domain : String) : SharedDispatcher ι :=
  match w.dispatcher.askDomain domain w.clock with
  | (.error _, d, c) => { w with dispatcher := d, clock := c, caller := w.place i .idle }
  | (.ok answer, d, c) =>
    { w with
      dispatcher := d
      clock := c
      caller := w.place i .idle
      admissions := if answer.isAdmitted then w.admissions ++ [(domain, w.clock.time)]
        else w.admissions }

/-- The reading a prune starts with. -/
def startPrune (w : SharedDispatcher ι) (i : ι) : SharedDispatcher ι :=
  match w.clock.read with
  | (.error _, c) => { w with clock := c }
  | (.ok now, c) => { w with clock := c, caller := w.place i (.pruning now 0) }

/-- The visit of a prune to one entry. -/
def visit (w : SharedDispatcher ι) (i : ι) (started : Moment) (removed : Nat)
    (domain : String) : SharedDispatcher ι :=
  let g := w.dispatcher.domainGate.pruneEntry domain started
  { w with
    dispatcher := { w.dispatcher with domainGate := g }
    caller := w.place i
      (.pruning started (removed + (w.dispatcher.domainGate.size - g.size))) }

/-- The end of a prune, where what it removed is counted. -/
def endPrune (w : SharedDispatcher ι) (i : ι) (removed : Nat) : SharedDispatcher ι :=
  let n := w.dispatcher.counters
  { w with
    dispatcher := { w.dispatcher with
      counters := { n with windowsPruned := n.windowsPruned + .ofNat removed } }
    caller := w.place i .idle }

/-- **One step.** What a caller does not stand at, it does not do. -/
def step (w : SharedDispatcher ι) : SharedStep ι → SharedDispatcher ι
  | .turnClock c => if w.clock.time.toNanos ≤ c.time.toNanos then { w with clock := c } else w
  | .askGlobal i domain =>
    match w.caller i with
    | .idle => w.askGlobal i domain
    | _ => w
  | .askDomain i =>
    match w.caller i with
    | .letThrough domain => w.askDomain i domain
    | _ => w
  | .startPrune i =>
    match w.caller i with
    | .idle => w.startPrune i
    | _ => w
  | .visit i domain =>
    match w.caller i with
    | .pruning started removed => w.visit i started removed domain
    | _ => w
  | .endPrune i =>
    match w.caller i with
    | .pruning _ removed => w.endPrune i removed
    | _ => w

/-- The state after some steps. -/
def after (w : SharedDispatcher ι) (steps : List (SharedStep ι)) : SharedDispatcher ι :=
  steps.foldl step w

end SharedDispatcher

end Herald
