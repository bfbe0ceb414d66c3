import Herald.Rate.DomainGate
import Herald.Rate.GlobalGate
/-!
# Windows that remember the latest event

A window keeps one moment of all those at which its scope let something
through. That is enough to answer like the whole list of them as long as the
kept one is the latest, which `IsLatest` says: the window is then closed
exactly when one of them is less than a spacing ago (`IsLatest.isOpen_iff`).
An admission keeps it so, since spacings have a length (`IsLatest.renew`),
even where the clock runs backwards in between.

`Remembers` says the same of a whole gate: it answers like the list of all its
admissions (`passes_iff`, `admits_iff`). A prune lets a domain's window go;
what is left to say of such a domain is that its admissions all lie a spacing
back, and that stays true on a clock that does not run backwards.
-/

namespace Herald

/-- A spacing of the global gate has a length, whatever the rate. -/
theorem GlobalGate.spacing_pos (g : GlobalGate) : 0 < g.spacing.toNanos :=
  toNanos_spacing_pos g.rate (by decide)

/-- A spacing of the gate of a domain has a length, whatever the rate. -/
theorem DomainGate.spacing_pos (g : DomainGate) : 0 < g.spacing.toNanos :=
  toNanos_spacing_pos g.rate (by decide)

/-- The age at which a window is pruned is twice the spacing. -/
theorem DomainGate.toNanos_maxAge (g : DomainGate) :
    g.maxAge.toNanos = 2 * g.spacing.toNanos :=
  Span.toNanos_twice _ _

/-- A span is still running when the moment it began is less than it ago. -/
theorem Moment.since_lt_iff {now t : Moment} {d : Span} :
    now.since t < d ↔ now.toNanos - t.toNanos < d.toNanos := by
  rw [Span.lt_iff, Moment.toNanos_since]

/-- Of two moments, the second lies at least a span after the first. -/
def Moment.Apart (d : Span) (s t : Moment) : Prop := s.toNanos + d.toNanos ≤ t.toNanos

/-- A span that has a length and is no longer running lies between two
moments, and they come in that order. -/
theorem Moment.apart_of_not_since_lt {now t : Moment} {d : Span} (hpos : 0 < d.toNanos)
    (h : ¬ now.since t < d) : Moment.Apart d t now := by
  rw [Moment.since_lt_iff] at h
  simp only [Moment.Apart]
  omega

namespace RateWindow

variable {w : RateWindow} {happened : Moment → Prop} {now : Moment} {spacing : Span}

/-- The window holds the latest moment at which something happened. -/
structure IsLatest (w : RateWindow) (happened : Moment → Prop) : Prop where
  isOne : happened w.lastAdmitted
  latest : ∀ t, happened t → t.toNanos ≤ w.lastAdmitted.toNanos

/-- **The latest moment speaks for all of them.** A window that holds it is
open exactly when none of them is less than a spacing ago. -/
theorem IsLatest.isOpen_iff (h : w.IsLatest happened) :
    w.isOpen now spacing = true ↔ ∀ t, happened t → ¬ now.since t < spacing := by
  simp only [RateWindow.isOpen_iff, Moment.since_lt_iff]
  constructor
  · intro hopen t ht
    have := h.latest t ht
    omega
  · intro hall
    have := hall _ h.isOne
    omega

/-- **A window renewed in order holds the latest moment.** Where none of the
moments is less than a spacing ago, and a spacing has a length, all of them
lie before the present one. -/
theorem IsLatest.renew (hpos : 0 < spacing.toNanos)
    (hall : ∀ t, happened t → ¬ now.since t < spacing) :
    (openedAt now).IsLatest fun t => happened t ∨ t = now where
  isOne := .inr rfl
  latest t ht := by
    rcases ht with ht | rfl
    · exact Nat.le_trans (Nat.le_add_right _ _) (Moment.apart_of_not_since_lt hpos (hall t ht))
    · exact Nat.le_refl _

/-- What a window is the latest of can be said in other words. -/
theorem IsLatest.congr {happened' : Moment → Prop} (h : w.IsLatest happened)
    (heq : ∀ t, happened' t ↔ happened t) : w.IsLatest happened' where
  isOne := (heq _).2 h.isOne
  latest t ht := h.latest t ((heq t).1 ht)

end RateWindow

namespace GlobalGate

variable {g : GlobalGate} {passed : Moment → Prop} {now : Moment}

/-- The gate remembers the moments at which it let something pass. -/
structure Remembers (g : GlobalGate) (passed : Moment → Prop) : Prop where
  latest : ∀ w, g.window = some w → w.IsLatest passed
  nothing : g.window = none → ∀ t, ¬ passed t

/-- **The gate is open exactly when nothing it let pass is less than a spacing
ago.** -/
theorem Remembers.passes_iff (h : g.Remembers passed) :
    (g.check now).1 = true ↔ ∀ t, passed t → ¬ now.since t < g.spacing := by
  rw [check_admitted_iff]
  cases hw : g.window with
  | none => simpa using fun t ht => absurd ht (h.nothing hw t)
  | some w => simpa using (h.latest w hw).isOpen_iff

/-- The moments can be described in other words. -/
theorem Remembers.congr {passed' : Moment → Prop} (h : g.Remembers passed)
    (heq : ∀ t, passed' t ↔ passed t) : g.Remembers passed' where
  latest w hw := (h.latest w hw).congr heq
  nothing hw t ht := h.nothing hw t ((heq t).1 ht)

/-- **A check that passes is remembered.** -/
theorem Remembers.pass (h : g.Remembers passed) (hpass : (g.check now).1 = true) :
    (g.setWindow (some (.openedAt now))).Remembers fun t => passed t ∨ t = now where
  latest w hw := by
    rw [window_setWindow, Option.some.injEq] at hw
    subst hw
    exact .renew g.spacing_pos (h.passes_iff.1 hpass)
  nothing hw := by
    rw [window_setWindow] at hw
    cases hw

/-- **A failed check forgets nothing.** -/
theorem Remembers.poison (h : g.Remembers passed) : g.poison.Remembers passed where
  latest w hw := h.latest w (g.window_poison ▸ hw)
  nothing hw := h.nothing (g.window_poison ▸ hw)

end GlobalGate

namespace DomainGate

variable {g : DomainGate} {admitted : String → Moment → Prop} {now later : Moment}
  {x : String} {forgets : Prop}

/-- At a moment, the gate remembers the moments at which it admitted each
domain, as far as they matter from then on. Only where prunes may have
happened (`forgets`) can a domain with admissions be without a window. -/
structure Remembers (g : DomainGate) (forgets : Prop) (now : Moment)
    (admitted : String → Moment → Prop) : Prop where
  latest : ∀ x w, g.window x = some w → w.IsLatest (admitted x)
  elapsed : ∀ x, g.window x = none → ∀ t, admitted x t →
    forgets ∧ t.toNanos + g.spacing.toNanos ≤ now.toNanos

/-- **A domain is admitted exactly when no admission of it is less than a
spacing ago.** -/
theorem Remembers.admits_iff (h : g.Remembers forgets now admitted) :
    (g.check x now).1 = true ↔ ∀ t, admitted x t → ¬ now.since t < g.spacing := by
  rw [check_admitted_iff]
  cases hw : g.window x with
  | none =>
    -- without a window, all admissions lie a spacing back
    simp only [reduceCtorEq, false_implies, implies_true, true_iff]
    intro t ht
    have := (h.elapsed x hw t ht).2
    rw [Moment.since_lt_iff]
    omega
  | some w => simpa using (h.latest x w hw).isOpen_iff

/-- The moments can be described in other words. -/
theorem Remembers.congr {admitted' : String → Moment → Prop}
    (h : g.Remembers forgets now admitted) (heq : ∀ x t, admitted' x t ↔ admitted x t) :
    g.Remembers forgets now admitted' where
  latest x w hw := (h.latest x w hw).congr (heq x)
  elapsed x hw t ht := h.elapsed x hw t ((heq x t).1 ht)

/-- Time may pass; where nothing is ever forgotten, it may even turn back. -/
theorem Remembers.at_later (h : g.Remembers forgets now admitted)
    (hle : forgets → now.toNanos ≤ later.toNanos) : g.Remembers forgets later admitted where
  latest := h.latest
  elapsed x hw t ht := by
    obtain ⟨hf, hlt⟩ := h.elapsed x hw t ht
    exact ⟨hf, Nat.le_trans hlt (hle hf)⟩

/-- **An admission is remembered**, and nothing else changes. -/
theorem Remembers.admission (h : g.Remembers forgets now admitted)
    (hadm : (g.check x now).1 = true) :
    (g.check x now).2.Remembers forgets now fun y t => admitted y t ∨ (y = x ∧ t = now) where
  latest y w hw := by
    rw [window_check_admitted hadm] at hw
    by_cases hy : y = x
    · subst hy
      rw [if_pos rfl, Option.some.injEq] at hw
      subst hw
      simpa using RateWindow.IsLatest.renew g.spacing_pos (h.admits_iff.1 hadm)
    · rw [if_neg hy] at hw
      simpa [hy] using h.latest y w hw
  elapsed y hw t ht := by
    rw [window_check_admitted hadm] at hw
    by_cases hy : y = x
    · simp [hy] at hw
    · rw [if_neg hy] at hw
      simp only [hy, false_and, or_false] at ht
      exact h.elapsed y hw t ht

/-- A window that is stale at a moment no longer denies anything then or
later. -/
theorem isOpen_of_isStale {w : RateWindow} (hstale : w.isStale now g.maxAge = true)
    (hle : now.toNanos ≤ later.toNanos) : w.isOpen later g.spacing = true := by
  have hage := g.toNanos_maxAge
  exact RateWindow.isOpen_of_isStale (by omega) hle hstale

/-- **What is stale no longer matters.** Of a domain whose window is stale by
some moment gone by, every admission lies a spacing back. -/
theorem Remembers.elapsed_of_isStale (h : g.Remembers forgets now admitted) {w : RateWindow}
    (hw : g.window x = some w) (hstale : w.isStale later g.maxAge = true)
    (hle : later.toNanos ≤ now.toNanos) {t : Moment} (ht : admitted x t) :
    t.toNanos + g.spacing.toNanos ≤ now.toNanos := by
  rw [RateWindow.isStale_iff, toNanos_maxAge] at hstale
  have := (h.latest x w hw).latest t ht
  omega

/-- **A prune forgets only what no longer matters.** -/
theorem Remembers.prune (h : g.Remembers forgets now admitted) (hf : forgets) :
    (g.prune now).2.Remembers forgets now admitted where
  latest y w hw := by
    rw [window_prune, Option.filter_eq_some_iff] at hw
    exact h.latest y w hw.1
  elapsed y hw t ht := by
    rw [window_prune] at hw
    cases hy : g.window y with
    | none => exact h.elapsed y hy t ht
    | some w =>
      -- the prune took this window, so it was stale
      have hstale : w.isStale now g.maxAge = true := by simpa [hy, Option.filter] using hw
      exact ⟨hf, h.elapsed_of_isStale hy hstale (Nat.le_refl _) ht⟩

/-- **A single visit of a prune forgets only what no longer matters**, even one that comes long
after the prune began. -/
theorem Remembers.pruneEntry (h : g.Remembers forgets now admitted) (hf : forgets)
    {started : Moment} (hle : started.toNanos ≤ now.toNanos) (domain : String) :
    (g.pruneEntry domain started).Remembers forgets now admitted where
  latest y w hw := by
    rw [window_pruneEntry] at hw
    split at hw
    · exact h.latest y w (Option.filter_eq_some_iff.1 hw).1
    · exact h.latest y w hw
  elapsed y hw t ht := by
    rw [window_pruneEntry] at hw
    split at hw
    · cases hy : g.window y with
      | none => exact h.elapsed y hy t ht
      | some w =>
        have hstale : w.isStale started g.maxAge = true := by simpa [hy, Option.filter] using hw
        exact ⟨hf, h.elapsed_of_isStale hy hstale hle ht⟩
    · exact h.elapsed y hw t ht

end DomainGate

end Herald
