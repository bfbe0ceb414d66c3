import Herald.Time.Moment
/-!
# The hand-set clock

A clock that stands still until it is moved. Two things can go wrong with it,
and both are causes of type `ClockFault`: the next read can be made to fail,
once, and a move past the last representable moment breaks the clock for
good. `Clock.read` is the one way the rest of the library reads a clock.
-/

namespace Herald

/-- Why a clock gave no time. -/
inductive ClockFault where
  /-- A move led past the last moment there is. -/
  | beyondRange
  /-- The read was made to fail. -/
  | readFailed
  /-- An earlier move broke the clock. -/
  | broken
  deriving DecidableEq, Repr

/-- The text a fault is reported with. -/
def ClockFault.message : ClockFault → String
  | .beyondRange => "overflow when adding duration to instant"
  | .readFailed => "clock failure"
  | .broken => "MockClock mutex poisoned - a test thread panicked while holding the lock: "
      ++ "PoisonError \x7b .. \x7d"

/-- A clock: the moment it shows, whether it is broken, and whether its next
read is to fail. -/
structure Clock where
  time : Moment
  isBroken : Bool
  failsNext : Bool
  deriving DecidableEq, Repr

namespace Clock

/-- A clock at its start, in order. -/
def fresh : Clock := ⟨.start, false, false⟩

/-- A read. A failure that was asked for comes first and is used up by it;
a broken clock shows nothing. -/
def read (c : Clock) : Except ClockFault Moment × Clock :=
  if c.failsNext then (.error .readFailed, { c with failsNext := false })
  else if c.isBroken then (.error .broken, c)
  else (.ok c.time, c)

/-- Sets a clock to a moment, or breaks it where there is none. -/
def moveTo (c : Clock) : Option Moment → Except ClockFault Unit × Clock
  | some m => (.ok (), { c with time := m })
  | none => (.error .beyondRange, { c with isBroken := true })

/-- Moves the clock forward by a span. -/
def advance (c : Clock) (d : Span) : Except ClockFault Unit × Clock :=
  if c.isBroken then (.error .broken, c) else c.moveTo (c.time.add? d)

/-- Moves the clock, in either direction, to a span after its start. -/
def setOffset (c : Clock) (offset : Span) : Except ClockFault Unit × Clock :=
  if c.isBroken then (.error .broken, c) else c.moveTo (Moment.start.add? offset)

/-- Time since the clock's start. This is not a read that can be made to
fail. -/
def elapsed (c : Clock) : Except ClockFault Span :=
  if c.isBroken then .error .broken else .ok (c.time.since .start)

/-- Makes the next read fail. -/
def failNext (c : Clock) : Clock := { c with failsNext := true }

/-- The clock with no failure asked for. -/
def disarm (c : Clock) : Clock := { c with failsNext := false }

/-- A sound clock shows its moment and is not changed by a read. -/
theorem read_sound {c : Clock} (hf : c.failsNext = false) (hb : c.isBroken = false) :
    c.read = (.ok c.time, c) := by
  simp [read, hf, hb]

/-- A failure that was asked for is used up by the read it ends. -/
theorem read_armed {c : Clock} (hf : c.failsNext = true) :
    c.read = (.error .readFailed, c.disarm) := by
  simp [read, hf, disarm]

/-- A broken clock shows nothing and is not changed by a read. -/
theorem read_broken {c : Clock} (hf : c.failsNext = false) (hb : c.isBroken = true) :
    c.read = (.error .broken, c) := by
  simp [read, hf, hb]

/-- **No read of a broken clock succeeds**, and none repairs it. -/
theorem read_of_isBroken {c : Clock} (hb : c.isBroken = true) :
    ∃ f c', c.read = (.error f, c') ∧ c'.isBroken = true := by
  cases hf : c.failsNext with
  | true => exact ⟨_, _, read_armed hf, hb⟩
  | false => exact ⟨_, _, read_broken hf hb, hb⟩

/-- A read, failed or not, does not move the clock. -/
theorem time_read {c c' : Clock} {r : Except ClockFault Moment} (h : c.read = (r, c')) :
    c'.time = c.time := by
  simp only [read] at h
  split at h
  · cases h
    rfl
  · split at h <;> cases h <;> rfl

/-- A read that succeeds leaves the clock as it was. -/
theorem read_ok {c c' : Clock} {m : Moment} (h : c.read = (.ok m, c')) :
    c' = c ∧ m = c.time ∧ c.failsNext = false ∧ c.isBroken = false := by
  simp only [read] at h
  split at h
  · simp at h
  · split at h
    · simp at h
    · next h1 h2 =>
      simp only [Prod.mk.injEq, Except.ok.injEq] at h
      exact ⟨h.2.symm, h.1.symm, by simpa using h1, by simpa using h2⟩

/-! ## Moves -/

/-- A move that leads too far breaks the clock and does nothing else to it. -/
theorem moveTo_beyondRange {c : Clock} {m : Option Moment}
    (h : (c.moveTo m).1 = .error .beyondRange) :
    (c.moveTo m).2 = { c with isBroken := true } := by
  cases m with
  | none => rfl
  | some m => cases h

/-- A broken clock is not moved. -/
theorem advance_of_isBroken {c : Clock} (h : c.isBroken = true) (d : Span) :
    c.advance d = (.error .broken, c) := if_pos h

/-- A broken clock is not set. -/
theorem setOffset_of_isBroken {c : Clock} (h : c.isBroken = true) (d : Span) :
    c.setOffset d = (.error .broken, c) := if_pos h

theorem advance_of_not_isBroken {c : Clock} (h : ¬ c.isBroken = true) (d : Span) :
    c.advance d = c.moveTo (c.time.add? d) := if_neg h

theorem setOffset_of_not_isBroken {c : Clock} (h : ¬ c.isBroken = true) (d : Span) :
    c.setOffset d = c.moveTo (Moment.start.add? d) := if_neg h

/-- An advance that leads too far breaks the clock. -/
theorem advance_beyondRange {c : Clock} {d : Span}
    (h : (c.advance d).1 = .error .beyondRange) :
    (c.advance d).2 = { c with isBroken := true } := by
  by_cases hb : c.isBroken = true
  · rw [advance_of_isBroken hb] at h
    cases h
  · rw [advance_of_not_isBroken hb] at h ⊢
    exact moveTo_beyondRange h

/-- An offset that leads too far breaks the clock. -/
theorem setOffset_beyondRange {c : Clock} {d : Span}
    (h : (c.setOffset d).1 = .error .beyondRange) :
    (c.setOffset d).2 = { c with isBroken := true } := by
  by_cases hb : c.isBroken = true
  · rw [setOffset_of_isBroken hb] at h
    cases h
  · rw [setOffset_of_not_isBroken hb] at h ⊢
    exact moveTo_beyondRange h

/-- Where a clock is set to does not depend on a failure that was asked for,
and does not use it up. -/
theorem moveTo_disarm (c : Clock) (m : Option Moment) :
    c.disarm.moveTo m = ((c.moveTo m).1, (c.moveTo m).2.disarm) := by
  cases m <;> rfl

theorem advance_disarm (c : Clock) (d : Span) :
    c.disarm.advance d = ((c.advance d).1, (c.advance d).2.disarm) := by
  by_cases hb : c.isBroken = true
  · rw [advance_of_isBroken hb, advance_of_isBroken (c := c.disarm) hb]
  · rw [advance_of_not_isBroken hb, advance_of_not_isBroken (c := c.disarm) hb]
    exact moveTo_disarm c _

theorem setOffset_disarm (c : Clock) (d : Span) :
    c.disarm.setOffset d = ((c.setOffset d).1, (c.setOffset d).2.disarm) := by
  by_cases hb : c.isBroken = true
  · rw [setOffset_of_isBroken hb, setOffset_of_isBroken (c := c.disarm) hb]
  · rw [setOffset_of_not_isBroken hb, setOffset_of_not_isBroken (c := c.disarm) hb]
    exact moveTo_disarm c _

@[simp] theorem failsNext_moveTo (c : Clock) (m : Option Moment) :
    (c.moveTo m).2.failsNext = c.failsNext := by
  cases m <;> rfl

@[simp] theorem failsNext_advance (c : Clock) (d : Span) :
    (c.advance d).2.failsNext = c.failsNext := by
  simp only [advance]
  split <;> simp

@[simp] theorem failsNext_setOffset (c : Clock) (d : Span) :
    (c.setOffset d).2.failsNext = c.failsNext := by
  simp only [setOffset]
  split <;> simp

end Clock

end Herald
