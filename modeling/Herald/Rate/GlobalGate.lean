import Herald.Lock
import Herald.Rate.Spacing
import Herald.Rate.Window
import Herald.Time.Clock
/-!
# The global gate

One window for everything: open until its first admission, and after that
open once a spacing has passed since the last one. The window is behind a
lock, and a check holds it from before it reads the clock until it has moved
the window, so the window is never seen between being looked at and being
moved. A reading that fails leaves the lock poisoned and the window as it was
(`checkBy_of_error`), and who comes next goes on with that window.
-/

namespace Herald

/-- A gate shared by all domains: its rate per minute and, behind a lock, its
window, absent until the first admission. -/
structure GlobalGate where
  rate : UInt32
  lock : Lock (Option RateWindow)
  deriving DecidableEq, Repr

namespace GlobalGate

/-- A gate that has not admitted anything. -/
def ofRate (rate : UInt32) : GlobalGate := ⟨rate, .free none⟩

/-- The least time between two admissions. -/
def spacing (g : GlobalGate) : Span := Herald.spacing g.rate globalPeriod

/-- The window, if there is one yet. -/
def window (g : GlobalGate) : Option RateWindow := g.lock.get

/-- The gate with another window. -/
def setWindow (g : GlobalGate) (w : Option RateWindow) : GlobalGate :=
  { g with lock := g.lock.set w }

/-- The gate after a check that has failed while holding the lock. -/
def poison (g : GlobalGate) : GlobalGate := { g with lock := g.lock.poison }

/-- The gate as if no check had ever failed. -/
def heal (g : GlobalGate) : GlobalGate := { g with lock := g.lock.heal }

/-- What a check makes of the window it finds. -/
def judge (spacing : Span) (now : Moment) : Option RateWindow → Bool × Option RateWindow
  | some w =>
    let (admitted, w') := w.tryAdmit now spacing
    (admitted, some w')
  | none => (true, some (.openedAt now))

/-- **One check at a moment.** -/
def check (g : GlobalGate) (now : Moment) : Bool × GlobalGate :=
  let (admitted, w) := judge g.spacing now g.window
  (admitted, g.setWindow w)

/-- What a check by the clock does with the window in its hands: it reads the clock,
and then judges. -/
def judgeBy (spacing : Span) (window : Option RateWindow) (c : Clock) :
    Except ClockFault Bool × Option RateWindow × Clock :=
  match c.read with
  | (.error f, c') => (.error f, window, c')
  | (.ok now, c') =>
    let (admitted, w) := judge spacing now window
    (.ok admitted, w, c')

/-- **One check by the clock.** The lock is taken first, and the clock is read
while it is held. -/
def checkBy (g : GlobalGate) (c : Clock) : Except ClockFault Bool × GlobalGate × Clock :=
  let (answer, lock, c') := g.lock.hold c (judgeBy g.spacing)
  (answer, { g with lock := lock }, c')

/-! ## The parts of a gate -/

@[simp] theorem window_setWindow (g : GlobalGate) (w : Option RateWindow) :
    (g.setWindow w).window = w := Lock.get_eq _

@[simp] theorem spacing_setWindow (g : GlobalGate) (w : Option RateWindow) :
    (g.setWindow w).spacing = g.spacing := rfl

@[simp] theorem setWindow_window (g : GlobalGate) : g.setWindow g.window = g := by
  simp [setWindow, window]

/-- A failed check leaves the window alone. -/
@[simp] theorem window_poison (g : GlobalGate) : g.poison.window = g.window := by
  simp [window, poison]

@[simp] theorem window_heal (g : GlobalGate) : g.heal.window = g.window := by
  simp [window, heal]

@[simp] theorem spacing_heal (g : GlobalGate) : g.heal.spacing = g.spacing := rfl

@[simp] theorem heal_poison (g : GlobalGate) : g.poison.heal = g.heal := rfl

@[simp] theorem heal_heal (g : GlobalGate) : g.heal.heal = g.heal := rfl

@[simp] theorem heal_setWindow (g : GlobalGate) (w : Option RateWindow) :
    (g.setWindow w).heal = g.heal.setWindow w := rfl

/-! ## Checks -/

/-- A check keeps the rate. -/
@[simp] theorem rate_check (g : GlobalGate) (now : Moment) : (g.check now).2.rate = g.rate := rfl

/-- A check admits where there is no window or an open one. -/
theorem judge_fst_iff {d : Span} {now : Moment} {v : Option RateWindow} :
    (judge d now v).1 = true ↔ ∀ w, v = some w → w.isOpen now d = true := by
  rcases v with _ | w
  · simp [judge]
  · by_cases h : w.isOpen now d = true <;> simp [judge, RateWindow.tryAdmit, h]

/-- A check that admits puts a window of its moment in place. -/
theorem judge_admitted {d : Span} {now : Moment} {v : Option RateWindow}
    (h : (judge d now v).1 = true) : (judge d now v).2 = some (.openedAt now) := by
  rcases v with _ | w
  · rfl
  · rw [judge, RateWindow.tryAdmit_of_isOpen (judge_fst_iff.1 h w rfl)]

/-- A denied check puts nothing there. -/
theorem judge_denied {d : Span} {now : Moment} {v : Option RateWindow}
    (h : (judge d now v).1 = false) : (judge d now v).2 = v := by
  rcases v with _ | w
  · cases h
  · by_cases ho : w.isOpen now d = true
    · simp [judge, RateWindow.tryAdmit_of_isOpen ho] at h
    · rw [judge, RateWindow.tryAdmit_of_not_isOpen ho]

/-- A gate admits when it has no window or an open one. -/
theorem check_admitted_iff {g : GlobalGate} {now : Moment} :
    (g.check now).1 = true ↔ ∀ w, g.window = some w → w.isOpen now g.spacing = true :=
  judge_fst_iff

/-- An admission leaves the window at the moment of the check. -/
theorem check_admitted {g : GlobalGate} {now : Moment} (h : (g.check now).1 = true) :
    (g.check now).2 = g.setWindow (some (.openedAt now)) :=
  congrArg g.setWindow (judge_admitted h)

/-- A denial leaves the gate as it was. -/
theorem check_denied {g : GlobalGate} {now : Moment} (h : (g.check now).1 = false) :
    (g.check now).2 = g :=
  (congrArg g.setWindow (judge_denied h)).trans g.setWindow_window

theorem judgeBy_of_ok {c c' : Clock} {now : Moment} (h : c.read = (.ok now, c')) (d : Span)
    (v : Option RateWindow) : judgeBy d v c = (.ok (judge d now v).1, (judge d now v).2, c') := by
  simp only [judgeBy, h]

theorem judgeBy_of_error {c c' : Clock} {f : ClockFault} (h : c.read = (.error f, c')) (d : Span)
    (v : Option RateWindow) : judgeBy d v c = (.error f, v, c') := by
  simp only [judgeBy, h]

/-- **A check that gets a reading is a check at that moment**, whether or not one has
failed before it. -/
theorem checkBy_of_ok {c c' : Clock} {now : Moment} (h : c.read = (.ok now, c'))
    (g : GlobalGate) : g.checkBy c = (.ok (g.check now).1, (g.check now).2, c') := by
  simp only [checkBy, check, window, Lock.get_eq]
  rw [Lock.hold_of_ok (judgeBy_of_ok h g.spacing g.lock.value)]
  rfl

/-- **A check that gets no reading** ends with the fault of the clock. The window is as
it was, and the lock is poisoned. -/
theorem checkBy_of_error {c c' : Clock} {f : ClockFault} (h : c.read = (.error f, c'))
    (g : GlobalGate) : g.checkBy c = (.error f, g.poison, c') := by
  simp only [checkBy]
  rw [Lock.hold_of_error (judgeBy_of_error h g.spacing g.lock.value)]
  rfl

/-- **A check after a failed one** is answered and moves the window as if that had not
been. -/
theorem check_heal (g : GlobalGate) (now : Moment) :
    g.heal.check now = ((g.check now).1, (g.check now).2.heal) := by
  simp only [check, window_heal, spacing_heal, heal_setWindow]

end GlobalGate

end Herald
