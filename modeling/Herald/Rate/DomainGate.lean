import Herald.Rate.Spacing
import Herald.Rate.Window
import Herald.Store
import Herald.Time.Clock
/-!
# The domain gate

One window for each domain, made by the domain's first admission. A check is
one update of one key, and reads the clock in the middle of it, before anything
is written. A prune reads the clock first of all and drops the windows that
have been idle for more than twice the spacing; it looks at every entry with
the one moment it was started at, and `pruneEntry` is its visit to a single
entry.
-/

namespace Herald

/-- A gate with a window of its own for each domain, at a rate per five
minutes. -/
structure DomainGate where
  rate : UInt32
  windows : Store String RateWindow

namespace DomainGate

/-- A gate that has not admitted anything. -/
def ofRate (rate : UInt32) : DomainGate := ⟨rate, .empty⟩

/-- The least time between two admissions of one domain. -/
def spacing (g : DomainGate) : Span := Herald.spacing g.rate domainPeriod

/-- Twice a spacing always has a second count that fits: a spacing is at
most five minutes. -/
theorem spacing_twice_fits (g : DomainGate) :
    2 * g.spacing.seconds + 1 < 0x1_0000_0000_0000_0000 := by
  have h := seconds_spacing_le g.rate domainPeriod
  have h' : domainPeriod.seconds = 300 := rfl
  rw [h'] at h
  show 2 * (Herald.spacing g.rate domainPeriod).seconds + 1 < 0x1_0000_0000_0000_0000
  omega

/-- The age above which a window is pruned: twice the spacing. -/
def maxAge (g : DomainGate) : Span := g.spacing.twice g.spacing_twice_fits

/-- The window of a domain, if it has one. -/
def window (g : DomainGate) (domain : String) : Option RateWindow := g.windows.get? domain

/-- How many domains have a window. -/
def size (g : DomainGate) : Nat := g.windows.size

/-- What a check at `now` makes of a domain's window: a new one, unless the
present one is still closed. -/
def renew (spacing : Span) (now : Moment) : Option RateWindow → Option RateWindow
  | some w => if w.isOpen now spacing then some (.openedAt now) else none
  | none => some (.openedAt now)

/-- **One check of a domain at a moment.** -/
def check (g : DomainGate) (domain : String) (now : Moment) : Bool × DomainGate :=
  let (admitted, ws) := g.windows.upsertIf domain (renew g.spacing now)
  (admitted, { g with windows := ws })

/-- What a check by the clock does with the entry it is looking at: it reads the clock,
and then decides. -/
def renewBy (spacing : Span) (window : Option RateWindow) (c : Clock) :
    Except ClockFault (Option RateWindow) × Clock :=
  match c.read with
  | (.error f, c') => (.error f, c')
  | (.ok now, c') => (.ok (renew spacing now window), c')

/-- **One check of a domain by the clock.** The clock is read while the entry of
the domain is being looked at. -/
def checkBy (g : DomainGate) (domain : String) (c : Clock) :
    Except ClockFault Bool × DomainGate × Clock :=
  let (answer, ws, c') := g.windows.tryUpsertIf domain c (renewBy g.spacing)
  (answer, { g with windows := ws }, c')

/-- What a prune counts, and what it keeps of an entry. -/
def pruneVisit (maxAge : Span) (now : Moment) (removed : Nat) (_ : String) (w : RateWindow) :
    Option RateWindow × Nat :=
  if w.isStale now maxAge then (none, removed + 1) else (some w, removed)

/-- **One prune at a moment**, with the number of windows it drops. -/
def prune (g : DomainGate) (now : Moment) : Nat × DomainGate :=
  let (ws, removed) := g.windows.sweep (pruneVisit g.maxAge now) 0
  (removed, { g with windows := ws })

/-- **One prune by the clock**, which is read before anything else is done. -/
def pruneBy (g : DomainGate) (c : Clock) : Except ClockFault Nat × DomainGate × Clock :=
  match c.read with
  | (.error f, c') => (.error f, g, c')
  | (.ok now, c') =>
    let (removed, g') := g.prune now
    (.ok removed, g', c')

/-- The visit of a prune started at `now` to the entry of one domain. -/
def pruneEntry (g : DomainGate) (domain : String) (now : Moment) : DomainGate :=
  { g with windows := g.windows.retainAt domain fun w => !w.isStale now g.maxAge }

/-! ## What the operations do to a domain's window -/

/-- A gate is its rate and its entries. -/
theorem ext_entries {g g' : DomainGate} (hrate : g.rate = g'.rate)
    (hentries : g.windows.entries = g'.windows.entries) : g = g' := by
  obtain ⟨_, ⟨_, _⟩⟩ := g
  obtain ⟨_, ⟨_, _⟩⟩ := g'
  cases hrate
  cases hentries
  rfl

theorem renewBy_of_ok {c c' : Clock} {now : Moment} (h : c.read = (.ok now, c')) (d : Span)
    (v : Option RateWindow) : renewBy d v c = (.ok (renew d now v), c') := by
  simp only [renewBy, h]

theorem renewBy_of_error {c c' : Clock} {f : ClockFault} (h : c.read = (.error f, c')) (d : Span)
    (v : Option RateWindow) : renewBy d v c = (.error f, c') := by
  simp only [renewBy, h]

/-- **A check that gets a reading is a check at that moment.** -/
theorem checkBy_of_ok {c c' : Clock} {now : Moment} (h : c.read = (.ok now, c'))
    (g : DomainGate) (domain : String) :
    g.checkBy domain c = (.ok (g.check domain now).1, (g.check domain now).2, c') := by
  simp only [checkBy]
  rw [Store.tryUpsertIf_of_ok (renew g.spacing now) (renewBy_of_ok h g.spacing _)]
  rfl

/-- **A check that gets no reading** ends with the fault of the clock, and has not
written anything. -/
theorem checkBy_of_error {c c' : Clock} {f : ClockFault} (h : c.read = (.error f, c'))
    (g : DomainGate) (domain : String) : g.checkBy domain c = (.error f, g, c') := by
  simp only [checkBy]
  rw [Store.tryUpsertIf_of_error (renewBy_of_error h g.spacing _)]

/-- A prune that gets a reading is a prune at that moment. -/
theorem pruneBy_of_ok {c c' : Clock} {now : Moment} (h : c.read = (.ok now, c'))
    (g : DomainGate) : g.pruneBy c = (.ok (g.prune now).1, (g.prune now).2, c') := by
  simp only [pruneBy, h]

/-- A prune that gets no reading has not begun. -/
theorem pruneBy_of_error {c c' : Clock} {f : ClockFault} (h : c.read = (.error f, c'))
    (g : DomainGate) : g.pruneBy c = (.error f, g, c') := by
  simp only [pruneBy, h]

/-- A check keeps the rate. -/
@[simp] theorem rate_check (g : DomainGate) (d : String) (now : Moment) :
    (g.check d now).2.rate = g.rate := rfl

/-- A prune keeps the rate. -/
@[simp] theorem rate_prune (g : DomainGate) (now : Moment) : (g.prune now).2.rate = g.rate := rfl

/-- A domain is admitted when it has no window or an open one. -/
theorem check_admitted_iff {g : DomainGate} {d : String} {now : Moment} :
    (g.check d now).1 = true ↔ ∀ w, g.window d = some w → w.isOpen now g.spacing = true := by
  simp only [check, Store.upsertIf, window]
  cases h : g.windows.get? d with
  | none => simp [renew]
  | some w => by_cases ho : w.isOpen now g.spacing = true <;> simp [renew, ho]

/-- **An admission sets the domain's window to the moment of the check**, and
touches no other. -/
theorem window_check_admitted {g : DomainGate} {d : String} {now : Moment}
    (h : (g.check d now).1 = true) (x : String) :
    (g.check d now).2.window x = if x = d then some (.openedAt now) else g.window x := by
  simp only [check, Store.upsertIf, window] at h ⊢
  cases hd : g.windows.get? d with
  | none => simp [renew, Store.get?_put]
  | some w =>
    by_cases ho : w.isOpen now g.spacing = true
    · simp [renew, ho, Store.get?_put]
    · simp [hd, renew, ho] at h

/-- An admission makes one more window where the domain has none. -/
theorem size_check_admitted {g : DomainGate} {d : String} {now : Moment}
    (h : (g.check d now).1 = true) :
    (g.check d now).2.size = g.size + if (g.window d).isNone then 1 else 0 := by
  unfold check Store.upsertIf window size at *
  cases hd : g.windows.get? d with
  | none => simp [renew, Store.size_put, hd]
  | some w =>
    by_cases ho : w.isOpen now g.spacing = true
    · simp [renew, ho, Store.size_put, hd]
    · simp [hd, renew, ho] at h

/-- **A denial leaves the gate as it was.** -/
theorem check_denied {g : DomainGate} {d : String} {now : Moment}
    (h : (g.check d now).1 = false) : (g.check d now).2 = g := by
  simp only [check, Store.upsertIf] at h ⊢
  cases hd : g.windows.get? d with
  | none => simp [hd, renew] at h
  | some w =>
    by_cases ho : w.isOpen now g.spacing = true
    · simp [hd, renew, ho] at h
    · simp [renew, ho]

/-- What a prune keeps of an entry does not depend on the count. -/
theorem sweepEntries_pruneVisit (a : Span) (now : Moment) (n : Nat)
    (l : List (String × RateWindow)) :
    Store.sweepEntries (pruneVisit a now) n l
      = (l.filter (fun e => !e.2.isStale now a),
         n + (l.filter (fun e => e.2.isStale now a)).length) := by
  induction l generalizing n with
  | nil => rfl
  | cons e rest ih =>
    obtain ⟨k, w⟩ := e
    by_cases h : w.isStale now a = true
    · simp [Store.sweepEntries, pruneVisit, h, ih]
      omega
    · simp [Store.sweepEntries, pruneVisit, h, ih]

/-- **A prune keeps exactly the windows that are not stale.** -/
theorem entries_prune (g : DomainGate) (now : Moment) :
    (g.prune now).2.windows.entries
      = g.windows.entries.filter fun e => !e.2.isStale now g.maxAge := by
  simp [prune, Store.sweep, sweepEntries_pruneVisit]

/-- **A prune drops a window exactly when it is stale.** -/
theorem window_prune (g : DomainGate) (now : Moment) (x : String) :
    (g.prune now).2.window x = (g.window x).filter fun w => !w.isStale now g.maxAge :=
  Option.ext fun w => by
    rw [window, Store.get?_eq_some_iff, entries_prune, List.mem_filter, Option.filter_eq_some_iff,
      window, Store.get?_eq_some_iff]

/-- The visit to one entry drops that entry's window when it is stale, and no
other. -/
theorem window_pruneEntry (g : DomainGate) (domain : String) (now : Moment) (x : String) :
    (g.pruneEntry domain now).window x
      = if x = domain then (g.window x).filter fun w => !w.isStale now g.maxAge else g.window x :=
  Store.get?_retainAt _ _ _ _

/-- The count of a prune is the number of windows lost. -/
theorem prune_count (g : DomainGate) (now : Moment) :
    (g.prune now).1 + (g.prune now).2.size = g.size := by
  simp only [size, Store.size, entries_prune]
  have h : (g.prune now).1
      = (g.windows.entries.filter fun e => e.2.isStale now g.maxAge).length := by
    simp [prune, Store.sweep, sweepEntries_pruneVisit]
  rw [h]
  induction g.windows.entries with
  | nil => rfl
  | cons e rest ih =>
    by_cases hs : e.2.isStale now g.maxAge = true
    · simp [hs]
      omega
    · simp [hs]
      omega

end DomainGate

end Herald
