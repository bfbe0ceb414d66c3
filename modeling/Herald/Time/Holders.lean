import Herald.Time.Clock
/-!
# A clock and those who hold it

A hand-set clock is handed around: whoever holds it can copy it, and all copies show
one time. What a holder has to himself is the start he was given with his copy, which
offsets and elapsed times are counted from. The clock itself is the one of
`Herald.Clock`, started at any moment of the machine's line and not only at its
beginning. No holder makes a read fail, so what can go wrong is a move.
-/

namespace Herald

namespace Clock

/-- Moves the clock, in either direction, to a span after a start. -/
def setOffsetFrom (c : Clock) (start : Moment) (offset : Span) :
    Except ClockFault Unit × Clock :=
  if c.isBroken then (.error .broken, c) else c.moveTo (start.add? offset)

/-- Time since a start. -/
def elapsedFrom (c : Clock) (start : Moment) : Except ClockFault Span :=
  if c.isBroken then .error .broken else .ok (c.time.since start)

/-- A broken clock is not set from any start. -/
theorem setOffsetFrom_of_isBroken {c : Clock} (h : c.isBroken = true) (start : Moment)
    (d : Span) : c.setOffsetFrom start d = (.error .broken, c) := if_pos h

theorem setOffsetFrom_of_not_isBroken {c : Clock} (h : ¬ c.isBroken = true) (start : Moment)
    (d : Span) : c.setOffsetFrom start d = c.moveTo (start.add? d) := if_neg h

/-- A broken clock tells no time since any start. -/
theorem elapsedFrom_of_isBroken {c : Clock} (h : c.isBroken = true) (start : Moment) :
    c.elapsedFrom start = .error .broken := if_pos h

theorem elapsedFrom_of_not_isBroken {c : Clock} (h : ¬ c.isBroken = true) (start : Moment) :
    c.elapsedFrom start = .ok (c.time.since start) := if_neg h

end Clock

/-- A clock with the starts its holders keep: that of the first, and those that came
with the copies, in the order they were made in. -/
structure SharedClock where
  clock : Clock
  first : Moment
  copies : List Moment
  deriving DecidableEq, Repr

/-- What a holder does with a clock. -/
inductive HolderCommand where
  | copy
  | advance (d : Span)
  | setOffset (d : Span)
  | read
  | elapsed
  deriving DecidableEq, Repr

/-- What comes of it. -/
inductive HolderAnswer where
  | done
  | moment (m : Moment)
  | span (d : Span)
  | fault (f : ClockFault)
  deriving DecidableEq, Repr

namespace HolderAnswer

/-- The answer of a move. -/
def ofMove : Except ClockFault Unit → HolderAnswer
  | .ok () => .done
  | .error f => .fault f

/-- The answer of a read. -/
def ofRead : Except ClockFault Moment → HolderAnswer
  | .ok m => .moment m
  | .error f => .fault f

/-- The answer of a question for the elapsed time. -/
def ofElapsed : Except ClockFault Span → HolderAnswer
  | .ok d => .span d
  | .error f => .fault f

end HolderAnswer

namespace SharedClock

/-- A clock set to a moment, in the hands of one holder, who starts there. -/
def new (start : Moment) : SharedClock := ⟨⟨start, false, false⟩, start, []⟩

/-- The start a holder keeps. Number 0 is the first holder and number `n + 1` has the
copy made after `n` others; a number that nobody has is taken for the first. -/
def startOf (s : SharedClock) (holder : Nat) : Moment :=
  (s.first :: s.copies).getD holder s.first

/-- The start a holder keeps is one of the starts there are. -/
theorem startOf_mem (s : SharedClock) (holder : Nat) :
    s.startOf holder ∈ s.first :: s.copies := by
  rw [startOf, List.getD_eq_getElem?_getD]
  cases h : (s.first :: s.copies)[holder]? with
  | none => exact List.mem_cons_self
  | some m => exact List.mem_of_getElem? h

/-- **One step of a holder.** Each command but a copy looks at the one clock, and no
other holder gets in between. -/
def step (s : SharedClock) : Nat × HolderCommand → HolderAnswer × SharedClock
  | (i, .copy) => (.done, { s with copies := s.copies ++ [s.startOf i] })
  | (_, .advance d) =>
    let (answer, clock) := s.clock.advance d
    (.ofMove answer, { s with clock })
  | (i, .setOffset d) =>
    let (answer, clock) := s.clock.setOffsetFrom (s.startOf i) d
    (.ofMove answer, { s with clock })
  | (_, .read) =>
    let (answer, clock) := s.clock.read
    (.ofRead answer, { s with clock })
  | (i, .elapsed) => (.ofElapsed (s.clock.elapsedFrom (s.startOf i)), s)

/-- A holder who starts at the beginning of the line sets the clock and asks for the
elapsed time as all of the library does that has no other start. -/
theorem step_of_start {s : SharedClock} {i : Nat} (h : s.startOf i = .start) (d : Span) :
    s.step (i, .setOffset d) =
        (.ofMove (s.clock.setOffset d).1, { s with clock := (s.clock.setOffset d).2 }) ∧
      s.step (i, .elapsed) = (.ofElapsed s.clock.elapsed, s) := by
  simp only [step, h]
  exact ⟨rfl, rfl⟩

/-- The clock after a run of steps. -/
def after (s : SharedClock) (cs : List (Nat × HolderCommand)) : SharedClock :=
  cs.foldl (fun s c => (s.step c).2) s

/-- The same holders with a broken clock. -/
def broken (s : SharedClock) : SharedClock := { s with clock.isBroken := true }

@[simp] theorem after_nil (s : SharedClock) : s.after [] = s := rfl

theorem after_append (s : SharedClock) (cs ds : List (Nat × HolderCommand)) :
    s.after (cs ++ ds) = (s.after cs).after ds := List.foldl_append

theorem after_concat (s : SharedClock) (cs : List (Nat × HolderCommand))
    (c : Nat × HolderCommand) : s.after (cs ++ [c]) = ((s.after cs).step c).2 := by
  rw [after_append]
  rfl

/-- **A broken clock answers every command but a copy with the same fault**, and
stays as it is. -/
theorem step_of_isBroken {s : SharedClock} (hunarmed : s.clock.failsNext = false)
    (hbroken : s.clock.isBroken = true) (i : Nat) {c : HolderCommand} (hc : c ≠ .copy) :
    s.step (i, c) = (.fault .broken, s) := by
  cases c with
  | copy => exact absurd rfl hc
  | advance d =>
    rw [step, Clock.advance_of_isBroken hbroken]
    rfl
  | setOffset d =>
    rw [step, Clock.setOffsetFrom_of_isBroken hbroken]
    rfl
  | read =>
    rw [step, Clock.read_broken hunarmed hbroken]
    rfl
  | elapsed =>
    rw [step, Clock.elapsedFrom_of_isBroken hbroken]
    rfl

end SharedClock

end Herald
