import Herald.Pruning.Loop
/-!
# Pruning loops in time

Loops on a common line of time, in nanoseconds. Each has the time of its next
tick. Time passes in two ways: smoothly, so that every tick comes at its
time, or by a leap, after which a loop that is overdue gets one tick. A tick
that comes in time is followed by the next one a period after the time it was
due; one that comes late, by the next one a period after it came.

Timers go off at whole milliseconds only, none before its time, and a smooth
passage of time takes whole milliseconds too. Time has an end, and a timer that
would have to be set past it is set thirty years ahead.
-/

namespace Herald

/-- A loop with its timer. -/
structure Ticker where
  loop : PruneLoop
  /-- When its next tick is due. -/
  due : Nat
  /-- Counts up with every setting of a timer, so that of timers due at one
  time the one set first comes first. -/
  setting : Nat
  /-- Whether somebody holds its handle. -/
  isHeld : Bool

/-- The loops and the present time. -/
structure Timeline where
  now : Nat
  settings : Nat
  tickers : List Ticker

namespace Timeline

/-- The start of time, without loops. -/
def start : Timeline := ⟨0, 0, []⟩

/-- The loops at another time. -/
def setNow (t : Timeline) (now : Nat) : Timeline := { t with now := now }

/-- How late a tick may come and still count as being in time. -/
def tolerance : Nat := 5_000_000

/-- Where time ends. -/
def endOfTime : Nat := 0x8000_0000_0000_0000 * 1_000_000_000

/-- How far ahead a timer is set that cannot be set to its time: thirty years
of 365 days. -/
def farAhead : Nat := 946_080_000 * 1_000_000_000

/-- The time a span after another one, as a timer is set to it at present. -/
def later (now base : Nat) (d : Span) : Nat :=
  if base + d.toNanos < endOfTime then base + d.toNanos else now + farAhead

/-- The step of the timers: a millisecond. -/
def grain : Nat := 1_000_000

/-- The step at which a timer for some time goes off. -/
def stepOf (due : Nat) : Nat := (due + (grain - 1)) / grain

/-- The last step that has come by now. -/
def step (t : Timeline) : Nat := t.now / grain

/-- The time at which a later step comes if time passes smoothly. -/
def atStep (t : Timeline) (n : Nat) : Nat :=
  if n ≤ t.step then t.now else n * grain + t.now % grain

/-- Starts a loop: its first tick comes at once, the next one a period
later. -/
def spawn (t : Timeline) (l : PruneLoop) (s : Service) : Timeline × Service :=
  let (l', s') := l.tick s
  ({ t with
    settings := t.settings + 1
    tickers := t.tickers ++ [⟨l', later t.now t.now l.period, t.settings, true⟩] }, s')

/-- Of two timers the one that comes first. -/
def comesFirst (a b : Ticker) : Bool :=
  decide (stepOf a.due < stepOf b.due ∨ (stepOf a.due = stepOf b.due ∧ a.setting < b.setting))

/-- Whether the tick of a loop comes by a step. -/
def isDue (limit : Nat) (k : Ticker) : Bool :=
  k.loop.isAlive && decide (stepOf k.due ≤ limit)

/-- The one of the loops seen so far whose tick comes first, with one more seen. -/
def sooner (limit : Nat) (best : Option (Nat × Ticker)) (p : Nat × Ticker) :
    Option (Nat × Ticker) :=
  if isDue limit p.2 then
    match best with
    | some b => if comesFirst p.2 b.2 then some p else some b
    | none => some p
  else best

/-- The position of the living loop whose tick comes first, if it comes by a
step. -/
def nextDue (limit : Nat) (ts : List Ticker) : Option (Nat × Ticker) :=
  (ts.zipIdx.map Prod.swap).foldl (sooner limit) none

/-- A tick of the loop at a position, at a time. -/
def tickAt (t : Timeline) (s : Service) (i : Nat) (k : Ticker) (now : Nat) :
    Timeline × Service :=
  let (l, s') := k.loop.tick s
  let base := if k.due + tolerance < now then now else k.due
  let k' : Ticker :=
    { k with loop := l, due := later now base k.loop.period, setting := t.settings }
  (⟨now, t.settings + 1, t.tickers.set i k'⟩, s')

/-- Ticks up to a step, each at its own time or all at `leap`. -/
def ticksUntil (limit : Nat) (leap : Option Nat) : Nat → Timeline → Service →
    Timeline × Service
  | 0, t, s => (t, s)
  | fuel + 1, t, s =>
    match nextDue limit t.tickers with
    | none => (t, s)
    | some (i, k) =>
      let w := t.tickAt s i k (leap.getD (t.atStep (stepOf k.due)))
      ticksUntil limit leap fuel w.1 w.2

/-- The time from one tick of a loop to the next is never shorter. -/
def stride (period : Span) : Nat :=
  if period.toNanos < farAhead then period.toNanos else farAhead

/-- How many ticks there can be up to a step. -/
def ticksWithin (limit : Nat) (ts : List Ticker) : Nat :=
  ts.foldr (fun k n => (limit * grain - k.due) / stride k.loop.period + 1 + n) 0

/-- **Time passes**: every tick that falls due comes at its time. -/
def sleep (t : Timeline) (s : Service) (d : Span) : Timeline × Service :=
  let limit := stepOf (later t.now t.now d)
  let w := ticksUntil limit none (ticksWithin limit t.tickers) t s
  (w.1.setNow (t.atStep limit), w.2)

/-- **Time leaps**: what has fallen due comes at the end of the leap. There is
no leap past the end of time. -/
def leap (t : Timeline) (s : Service) (d : Span) : Timeline × Service :=
  let now := t.now + d.toNanos
  if now < endOfTime then
    let limit := now / grain
    let w := ticksUntil limit (some now) (ticksWithin limit t.tickers) t s
    (w.1.setNow now, w.2)
  else (t, s)

/-- A leap, and whether there was time for it. -/
def jump (t : Timeline) (s : Service) (d : Span) :
    Except ClockFault Unit × Timeline × Service :=
  (if t.now + d.toNanos < endOfTime then .ok () else .error .beyondRange, t.leap s d)

/-- The loop of a number, if its handle is held. -/
def held? (t : Timeline) (number : Nat) : Option Ticker :=
  (t.tickers[number]?).filter (·.isHeld)

/-- Changes the loop of a number. -/
def change (t : Timeline) (number : Nat) (f : Ticker → Ticker) : Timeline :=
  { t with tickers := t.tickers.modify number f }

/-- Lets go of a handle. The loop goes on. -/
def release (t : Timeline) (number : Nat) : Timeline :=
  t.change number fun k => { k with isHeld := false }

/-- Stops the loop of a held handle, which is used up by it. -/
def stop (t : Timeline) (s : Service) (number : Nat) (k : Ticker) :
    Except ClockFault Unit × Timeline × Service :=
  let (r, l, s') := k.loop.stop s
  (r, t.change number fun k => { k with loop := l, isHeld := false }, s')

end Timeline

end Herald
