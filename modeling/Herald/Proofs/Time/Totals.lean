import Herald.Time.Holders
import Mathlib.Data.List.DropRight
import Mathlib.Data.List.Infix
import Mathlib.Algebra.Order.Ring.Int
/-!
# What a hand-set clock shows

A hand-set clock keeps seconds and nanoseconds apart and moves by what it is told,
from where it stands or from its start. What it comes to is said here without either:
`shown` is the offset set last and what was advanced since, in nanoseconds, worked
out from the commands alone. As long as every total so far has a second count that
fits a moment, the clock shows exactly that to all who hold it; the first total that
does not fit breaks it, and a broken clock is of no use to anybody ever after.
-/

namespace Herald

variable {start : Moment} {cs ds : List (Nat × HolderCommand)} {c : Nat × HolderCommand}
variable {s : SharedClock}

/-- The offset a command sets. -/
def HolderCommand.offset? : HolderCommand → Option Span
  | .setOffset d => some d
  | _ => none

/-- The span a command advances by. -/
def HolderCommand.advance? : HolderCommand → Option Span
  | .advance d => some d
  | _ => none

/-- Nanoseconds of the offset set last, none if none was set. -/
def lastOffset (cs : List (Nat × HolderCommand)) : Nat :=
  ((cs.filterMap (·.2.offset?)).getLast?.map Span.toNanos).getD 0

/-- The commands since an offset was last set. -/
def sinceOffset (cs : List (Nat × HolderCommand)) : List (Nat × HolderCommand) :=
  cs.rtakeWhile (·.2.offset?.isNone)

/-- **What a clock is to show**, in nanoseconds after its start: the offset set last
and all advances since then. -/
def shown (cs : List (Nat × HolderCommand)) : Nat :=
  lastOffset cs + (((sinceOffset cs).filterMap (·.2.advance?)).map Span.toNanos).sum

/-- What a clock is to show after a command, from what it showed before. -/
def HolderCommand.shownAfter (c : HolderCommand) (before : Nat) : Nat :=
  match c with
  | .setOffset d => d.toNanos
  | .advance d => before + d.toNanos
  | _ => before

@[simp] theorem shown_nil : shown [] = 0 := rfl

/-- **A command adds to what is shown, replaces it or leaves it.** -/
theorem shown_concat (cs : List (Nat × HolderCommand)) (c : Nat × HolderCommand) :
    shown (cs ++ [c]) = c.2.shownAfter (shown cs) := by
  obtain ⟨i, c⟩ := c
  cases c with
  | setOffset d =>
    have hlast : lastOffset (cs ++ [(i, .setOffset d)]) = d.toNanos := by
      simp [lastOffset, HolderCommand.offset?]
    have hsince : sinceOffset (cs ++ [(i, .setOffset d)]) = [] :=
      List.rtakeWhile_concat_neg _ _ _ (by simp [HolderCommand.offset?])
    simp only [shown, hlast, hsince]
    simp [HolderCommand.shownAfter]
  | advance d =>
    have hlast : lastOffset (cs ++ [(i, .advance d)]) = lastOffset cs := by
      simp [lastOffset, HolderCommand.offset?]
    have hsince : sinceOffset (cs ++ [(i, .advance d)]) = sinceOffset cs ++ [(i, .advance d)] :=
      List.rtakeWhile_concat_pos _ _ _ rfl
    simp only [shown, hlast, hsince]
    simp [HolderCommand.advance?, HolderCommand.shownAfter, Nat.add_assoc]
  | _ =>
    simp [shown, lastOffset, sinceOffset, HolderCommand.offset?, HolderCommand.advance?,
      HolderCommand.shownAfter]

/-! ## Totals that fit -/

/-- **Every total so far fits**: none has more seconds than a moment can have. -/
def Fits (start : Moment) (cs : List (Nat × HolderCommand)) : Prop :=
  ∀ p ∈ cs.inits, (start.toNanos + shown p) / 1_000_000_000 < 0x8000_0000_0000_0000

/-- Whether they fit can be decided. -/
instance (start : Moment) (cs : List (Nat × HolderCommand)) : Decidable (Fits start cs) :=
  inferInstanceAs (Decidable (∀ p ∈ cs.inits, _))

theorem fits_nil (start : Moment) : Fits start [] := by
  intro p hp
  have hseconds := start.seconds_lt
  have hnanos := start.nanos_lt
  rw [List.eq_nil_of_prefix_nil ((List.mem_inits _ _).1 hp), shown_nil, Moment.toNanos]
  omega

/-- The totals after one more command are those before it and the new one. -/
theorem fits_concat_iff :
    Fits start (cs ++ [c]) ↔ Fits start cs ∧
      (start.toNanos + shown (cs ++ [c])) / 1_000_000_000 < 0x8000_0000_0000_0000 := by
  simp only [Fits, List.mem_inits, List.prefix_concat_iff, or_imp, forall_and, forall_eq]
  exact and_comm

/-- What does not fit any more does not fit later on. -/
theorem not_fits_append (h : ¬ Fits start cs) (ds : List (Nat × HolderCommand)) :
    ¬ Fits start (cs ++ ds) := by
  intro hfits
  refine h fun p hp => hfits p ?_
  rw [List.mem_inits] at hp ⊢
  exact hp.trans (List.prefix_append cs ds)

namespace SharedClock

/-- **What the state of a clock is owed to the commands.** Everybody has the same
start, no read is made to fail, and the clock is in order, at the total, exactly as
long as all totals fit. -/
structure Shows (s : SharedClock) (start : Moment) (cs : List (Nat × HolderCommand)) : Prop where
  starts : ∀ m ∈ s.first :: s.copies, m = start
  unarmed : s.clock.failsNext = false
  sound : Fits start cs →
    s.clock.isBroken = false ∧ s.clock.time.toNanos = start.toNanos + shown cs
  broken : ¬ Fits start cs → s.clock.isBroken = true

namespace Shows

theorem startOf (h : s.Shows start cs) (i : Nat) : s.startOf i = start :=
  h.starts _ (s.startOf_mem i)

/-- A new clock shows its start. -/
theorem new (start : Moment) : (SharedClock.new start).Shows start [] where
  starts m hm := by simpa [SharedClock.new] using hm
  unarmed := rfl
  sound _ := ⟨rfl, (Nat.add_zero _).symm⟩
  broken h := absurd (fits_nil start) h

/-- **A move of a clock in order** leads to the new total, if there is such a moment,
and otherwise breaks the clock where it stands. It does not matter what the move is
counted from. -/
theorem move (h : s.Shows start cs) (hfits : Fits start cs) {base : Moment} {d : Span}
    (htotal : base.toNanos + d.toNanos = start.toNanos + shown (cs ++ [c]))
    (hstep : s.step c = (.ofMove (s.clock.moveTo (base.add? d)).1,
      { s with clock := (s.clock.moveTo (base.add? d)).2 })) :
    (Fits start (cs ++ [c]) ∧ (s.step c).1 = .done ∧ (s.step c).2.Shows start (cs ++ [c])) ∨
      (¬ Fits start (cs ++ [c]) ∧ s.step c = (.fault .beyondRange, s.broken)) := by
  cases hadd : base.add? d with
  | none =>
    have hover := Moment.add?_eq_none_iff.1 hadd
    rw [hadd] at hstep
    refine .inr ⟨fun hall => ?_, hstep⟩
    have := (fits_concat_iff.1 hall).2
    omega
  | some m =>
    have hm := Moment.toNanos_add? hadd
    have hnanos := m.nanos_lt
    have hseconds := m.seconds_lt
    have hall : Fits start (cs ++ [c]) := by
      refine fits_concat_iff.2 ⟨hfits, ?_⟩
      rw [← htotal, ← hm, Moment.toNanos]
      omega
    rw [hadd] at hstep
    rw [hstep]
    exact .inl ⟨hall, rfl,
      { starts := h.starts
        unarmed := h.unarmed
        sound := fun _ => ⟨(h.sound hfits).1, hm.trans htotal⟩
        broken := fun hnot => absurd hall hnot }⟩

/-- A command that moves nothing leaves the clock at a total that fits. -/
theorem stay (h : s.Shows start cs) (hfits : Fits start cs) {t : SharedClock}
    (hclock : t.clock = s.clock) (hstarts : ∀ m ∈ t.first :: t.copies, m = start)
    (hshown : shown (cs ++ [c]) = shown cs) :
    Fits start (cs ++ [c]) ∧ t.Shows start (cs ++ [c]) := by
  have hall : Fits start (cs ++ [c]) := by
    refine fits_concat_iff.2 ⟨hfits, ?_⟩
    rw [hshown]
    exact hfits cs ((List.mem_inits _ _).2 List.prefix_rfl)
  refine ⟨hall, ⟨hstarts, hclock ▸ h.unarmed, fun _ => ?_, fun hnot => absurd hall hnot⟩⟩
  rw [hclock, hshown]
  exact h.sound hfits

/-- A copy starts where all others do. -/
theorem starts_copy (h : s.Shows start cs) (i : Nat) :
    ∀ m ∈ s.first :: (s.copies ++ [s.startOf i]), m = start := by
  intro m hm
  rw [← List.cons_append, List.mem_append, List.mem_singleton] at hm
  rcases hm with hm | rfl
  · exact h.starts m hm
  · exact h.startOf i

/-- A clock in order tells the total to everybody. -/
theorem elapsed (h : s.Shows start cs) (hfits : Fits start cs) (i : Nat) :
    ∃ d : Span, s.step (i, .elapsed) = (.span d, s) ∧ d.toNanos = shown cs := by
  obtain ⟨hbroken, htime⟩ := h.sound hfits
  refine ⟨s.clock.time.since start, ?_, ?_⟩
  · rw [step, h.startOf, Clock.elapsedFrom_of_not_isBroken (by simp [hbroken])]
    rfl
  · rw [Moment.toNanos_since, htime, Nat.add_sub_cancel_left]

/-- A clock in order reads as much later than its start as was added. -/
theorem read (h : s.Shows start cs) (hfits : Fits start cs) (i : Nat) :
    ∃ m : Moment, s.step (i, .read) = (.moment m, s) ∧
      m.toNanos = start.toNanos + shown cs := by
  obtain ⟨hbroken, htime⟩ := h.sound hfits
  refine ⟨s.clock.time, ?_, htime⟩
  rw [step, Clock.read_sound h.unarmed hbroken]
  rfl

/-- **What a step can do to a clock in order.** Either the new total fits, and there
is no fault, or it does not, and the clock breaks where it stands. -/
theorem step_cases (h : s.Shows start cs) (hfits : Fits start cs) (c : Nat × HolderCommand) :
    (Fits start (cs ++ [c]) ∧ (∀ f, (s.step c).1 ≠ .fault f) ∧
        (s.step c).2.Shows start (cs ++ [c])) ∨
      (¬ Fits start (cs ++ [c]) ∧ s.step c = (.fault .beyondRange, s.broken)) := by
  obtain ⟨hsound, htime⟩ := h.sound hfits
  have hnot : ¬ s.clock.isBroken = true := by simp [hsound]
  obtain ⟨i, c⟩ := c
  cases c with
  | copy =>
    obtain ⟨hall, hshows⟩ := h.stay hfits (c := (i, .copy))
      (t := { s with copies := s.copies ++ [s.startOf i] }) rfl (h.starts_copy i)
      (shown_concat cs _)
    exact .inl ⟨hall, by simp [SharedClock.step], hshows⟩
  | advance d =>
    have htotal : s.clock.time.toNanos + d.toNanos =
        start.toNanos + shown (cs ++ [(i, .advance d)]) := by
      rw [shown_concat, htime, HolderCommand.shownAfter, Nat.add_assoc]
    have hmove := h.move hfits htotal (by rw [step, Clock.advance_of_not_isBroken hnot])
    rcases hmove with ⟨hall, hdone, hshows⟩ | hbreaks
    · exact .inl ⟨hall, by simp [hdone], hshows⟩
    · exact .inr hbreaks
  | setOffset d =>
    have htotal : start.toNanos + d.toNanos =
        start.toNanos + shown (cs ++ [(i, .setOffset d)]) := by
      rw [shown_concat, HolderCommand.shownAfter]
    have hmove := h.move hfits htotal
      (by rw [step, h.startOf, Clock.setOffsetFrom_of_not_isBroken hnot])
    rcases hmove with ⟨hall, hdone, hshows⟩ | hbreaks
    · exact .inl ⟨hall, by simp [hdone], hshows⟩
    · exact .inr hbreaks
  | read =>
    obtain ⟨m, hread, -⟩ := h.read hfits i
    obtain ⟨hall, hshows⟩ := h.stay hfits (c := (i, .read)) rfl h.starts (shown_concat cs _)
    rw [hread]
    exact .inl ⟨hall, by simp, hshows⟩
  | elapsed =>
    obtain ⟨d, helapsed, -⟩ := h.elapsed hfits i
    obtain ⟨hall, hshows⟩ := h.stay hfits (c := (i, .elapsed)) rfl h.starts (shown_concat cs _)
    rw [helapsed]
    exact .inl ⟨hall, by simp, hshows⟩

/-- A step that has a broken clock before it leaves it as it is. -/
theorem clock_step (h : s.Shows start cs) (hnot : ¬ Fits start cs)
    (c : Nat × HolderCommand) : (s.step c).2.clock = s.clock := by
  obtain ⟨i, c⟩ := c
  by_cases hcopy : c = .copy
  · rw [hcopy]
    rfl
  · rw [step_of_isBroken h.unarmed (h.broken hnot) i hcopy]

/-- **Every step keeps what a clock is owed.** -/
theorem step (h : s.Shows start cs) (c : Nat × HolderCommand) :
    (s.step c).2.Shows start (cs ++ [c]) := by
  by_cases hfits : Fits start cs
  · rcases h.step_cases hfits c with ⟨-, -, hshows⟩ | ⟨hnot, hstep⟩
    · exact hshows
    · rw [hstep]
      exact ⟨h.starts, h.unarmed, fun hall => absurd hall hnot, fun _ => rfl⟩
  · have hnot : ¬ Fits start (cs ++ [c]) := not_fits_append hfits [c]
    have hclock := h.clock_step hfits c
    refine ⟨?_, hclock ▸ h.unarmed, fun hall => absurd hall hnot,
      fun _ => hclock ▸ h.broken hfits⟩
    obtain ⟨i, c⟩ := c
    by_cases hcopy : c = .copy
    · rw [hcopy]
      exact h.starts_copy i
    · rw [step_of_isBroken h.unarmed (h.broken hfits) i hcopy]
      exact h.starts

/-- Every run keeps what a clock is owed, by induction over its steps. -/
theorem after (h : s.Shows start cs) (ds : List (Nat × HolderCommand)) :
    (s.after ds).Shows start (cs ++ ds) := by
  induction ds using List.reverseRecOn with
  | nil => simpa using h
  | append_singleton ds c ih =>
    rw [after_concat, ← List.append_assoc]
    exact ih.step c

end Shows

/-! ## Exact until it breaks -/

/-- **A clock that is exact**: whoever holds it has the total told him, in whole seconds
and what is left of one, and the moment so much later than the start. Whatever is done
next, there is no fault if the new total fits; if it does not, there is one and the
clock breaks, with its time unchanged. -/
structure Exact (s : SharedClock) (start : Moment) (cs : List (Nat × HolderCommand)) : Prop where
  elapsed : ∀ i, ∃ d : Span, s.step (i, .elapsed) = (.span d, s) ∧
    d.seconds = shown cs / 1_000_000_000 ∧ d.nanos = shown cs % 1_000_000_000
  read : ∀ i, ∃ m : Moment, s.step (i, .read) = (.moment m, s) ∧
    m.toNanos = start.toNanos + shown cs
  fits : ∀ c, Fits start (cs ++ [c]) → ∀ f, (s.step c).1 ≠ .fault f
  breaks : ∀ c, ¬ Fits start (cs ++ [c]) → s.step c = (.fault .beyondRange, s.broken)

/-- **A clock that failed for good**: in every later run it stays as it is, and answers
all that is asked of it, by anybody, with the fault of a broken clock. -/
structure FailedForGood (s : SharedClock) : Prop where
  stays : ∀ ds, (s.after ds).clock = s.clock
  faults : ∀ ds i c, c ≠ .copy → (s.after ds).step (i, c) = (.fault .broken, s.after ds)

/-- The clock is exact as long as the totals fit. -/
theorem Shows.exact (h : s.Shows start cs) (hfits : Fits start cs) : s.Exact start cs where
  elapsed i := by
    obtain ⟨d, hstep, hd⟩ := h.elapsed hfits i
    have hnanos := d.nanos_lt
    rw [Span.toNanos] at hd
    exact ⟨d, hstep, by omega, by omega⟩
  read := h.read hfits
  fits c hall := by
    rcases h.step_cases hfits c with ⟨-, hfault, -⟩ | ⟨hnot, -⟩
    · exact hfault
    · exact absurd hall hnot
  breaks c hnot := by
    rcases h.step_cases hfits c with ⟨hall, -⟩ | ⟨-, hstep⟩
    · exact absurd hall hnot
    · exact hstep

/-- The clock has failed for good once a total does not fit. -/
theorem Shows.failedForGood (h : s.Shows start cs) (hnot : ¬ Fits start cs) :
    s.FailedForGood where
  stays ds := by
    induction ds using List.reverseRecOn with
    | nil => rfl
    | append_singleton ds c ih =>
      rw [after_concat, (h.after ds).clock_step (not_fits_append hnot ds), ih]
  faults ds i c hc := by
    have hlater := h.after ds
    exact step_of_isBroken hlater.unarmed (hlater.broken (not_fits_append hnot ds)) i hc

end SharedClock

/-- **A hand-set clock is exact, and fails for good.** Whatever moment it was started
at and whatever its holders did with it, copies included: as long as every total fits
it tells all of them the offset set last and what was advanced since, to the
nanosecond; the step with the first total that does not fit is the first to fault, and
after it nobody gets an answer again. -/
theorem hand_set_clocks_are_exact_and_fail_for_good (start : Moment)
    (cs : List (Nat × HolderCommand)) :
    (Fits start cs → ((SharedClock.new start).after cs).Exact start cs) ∧
      (¬ Fits start cs → ((SharedClock.new start).after cs).FailedForGood) := by
  have h := (SharedClock.Shows.new start).after cs
  rw [List.nil_append] at h
  exact ⟨h.exact, h.failedForGood⟩

/-- Started in the last second there is and set to a nanosecond before the end of it, a
clock is broken by one nanosecond more, advanced through a copy: the carry alone has no
room. Setting it back is no help. -/
theorem hand_set_clock_broken_by_a_carry :
    let start : Moment := ⟨0x7fff_ffff_ffff_ffff, 1, by decide, by decide⟩
    let nearly : Span := ⟨0, 999_999_998, by decide, by decide⟩
    let nano : Span := ⟨0, 1, by decide, by decide⟩
    let cs : List (Nat × HolderCommand) := [(0, .copy), (0, .setOffset nearly)]
    let s := (SharedClock.new start).after cs
    let back : List (Nat × HolderCommand) := [(0, .setOffset .zero)]
    Fits start cs ∧ (∃ d : Span, s.step (1, .elapsed) = (.span d, s) ∧ d.nanos = 999_999_998) ∧
      ¬ Fits start (cs ++ [(1, .advance nano)]) ∧
      s.step (1, .advance nano) = (.fault .beyondRange, s.broken) ∧
      (s.broken.after back).step (1, .read) = (.fault .broken, s.broken.after back) := by
  intro start nearly nano cs s back
  have hfits : Fits start cs := by decide
  have hnot : ¬ Fits start (cs ++ [(1, .advance nano)]) := by decide
  have hexact := (hand_set_clocks_are_exact_and_fail_for_good start cs).1 hfits
  have hbreaks := hexact.breaks _ hnot
  have hafter : (SharedClock.new start).after (cs ++ [(1, .advance nano)]) = s.broken := by
    rw [SharedClock.after_concat, hbreaks]
  have hfailed := (hand_set_clocks_are_exact_and_fail_for_good start _).2 hnot
  rw [hafter] at hfailed
  obtain ⟨d, hstep, -, hnanos⟩ := hexact.elapsed 1
  have hfault := hfailed.faults back 1 .read (by simp)
  exact ⟨hfits, ⟨d, hstep, hnanos.trans (by decide)⟩, hnot, hbreaks, hfault⟩

end Herald
