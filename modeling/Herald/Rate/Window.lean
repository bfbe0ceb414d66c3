import Herald.Time.Moment
/-!
# Rate windows

A window remembers when its scope last let something through. It is open
again once a whole spacing has passed, and stale once more than a given age
has passed. Time that seems to run backwards counts as no time at all, by
the saturating difference of moments.
-/

namespace Herald

/-- The moment of the last admission of one scope. -/
structure RateWindow where
  lastAdmitted : Moment
  deriving DecidableEq, Repr

namespace RateWindow

/-- A window that opens with an admission. -/
def openedAt (now : Moment) : RateWindow := ⟨now⟩

/-- Whether an admission at `now` keeps the spacing. -/
def isOpen (w : RateWindow) (now : Moment) (spacing : Span) : Bool :=
  decide (spacing ≤ now.since w.lastAdmitted)

/-- Whether the window has been idle for strictly longer than `maxAge`. -/
def isStale (w : RateWindow) (now : Moment) (maxAge : Span) : Bool :=
  decide (maxAge < now.since w.lastAdmitted)

/-- Admits at `now` if the window is open, and only then moves it. -/
def tryAdmit (w : RateWindow) (now : Moment) (spacing : Span) : Bool × RateWindow :=
  if w.isOpen now spacing then (true, openedAt now) else (false, w)

/-- A window is open when at least the spacing has passed since its last
admission. -/
theorem isOpen_iff {w : RateWindow} {now : Moment} {i : Span} :
    w.isOpen now i = true ↔ i.toNanos ≤ now.toNanos - w.lastAdmitted.toNanos := by
  simp [isOpen, Span.le_iff, Moment.toNanos_since]

/-- A window is not open at the moment it was opened at, if the spacing has any
length. -/
theorem isOpen_openedAt {d : Span} (h : 0 < d.toNanos) (now : Moment) :
    (openedAt now).isOpen now d = false := by
  rw [← Bool.not_eq_true, isOpen_iff]
  simp only [openedAt]
  omega

/-- A window is stale when more than the age has passed. -/
theorem isStale_iff {w : RateWindow} {now : Moment} {a : Span} :
    w.isStale now a = true ↔ a.toNanos < now.toNanos - w.lastAdmitted.toNanos := by
  simp [isStale, Span.lt_iff, Moment.toNanos_since]

/-- An open window stays open as time goes on. -/
theorem isOpen_mono {w : RateWindow} {now later : Moment} {i : Span}
    (hle : now.toNanos ≤ later.toNanos) (h : w.isOpen now i = true) :
    w.isOpen later i = true := by
  rw [isOpen_iff] at h ⊢
  omega

/-- A stale window stays stale as time goes on. -/
theorem isStale_mono {w : RateWindow} {now later : Moment} {a : Span}
    (hle : now.toNanos ≤ later.toNanos) (h : w.isStale now a = true) :
    w.isStale later a = true := by
  rw [isStale_iff] at h ⊢
  omega

/-- **A window stale at some age is open** at any spacing that is no longer, then and
later. -/
theorem isOpen_of_isStale {w : RateWindow} {now later : Moment} {i a : Span}
    (hlong : i.toNanos ≤ a.toNanos) (hle : now.toNanos ≤ later.toNanos)
    (h : w.isStale now a = true) : w.isOpen later i = true := by
  rw [isStale_iff] at h
  rw [isOpen_iff]
  omega

/-- An open window admits, and moves to the moment of the try. -/
theorem tryAdmit_of_isOpen {w : RateWindow} {now : Moment} {i : Span} (h : w.isOpen now i = true) :
    w.tryAdmit now i = (true, openedAt now) := if_pos h

/-- A closed one stays as it is. -/
theorem tryAdmit_of_not_isOpen {w : RateWindow} {now : Moment} {i : Span}
    (h : ¬ w.isOpen now i = true) : w.tryAdmit now i = (false, w) := if_neg h

end RateWindow

end Herald
