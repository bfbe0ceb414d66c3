import Herald.Proofs.Rate.Period
import Herald.Time.Words
/-!
# Windows only move forward

A window can be tried at moments in any order, and with another spacing each time. It
admits exactly those that lie a spacing behind the moment it holds
(`RateWindow.isOpen_iff_apart`), and then holds that one. So from the moment it was
opened at, what it has admitted comes in strict order and ends with the moment it
holds (`RateWindow.pairwise_admitted`, `RateWindow.getLast?_admitted`), whichever way
the clock ran in between. Where it does run forward, a window that is open or stale
stays so, and one that is stale at twice a spacing is open at the spacing: what a prune
takes away would have denied nothing.
-/

namespace Herald

/-- A window is a gate that is told the spacing at each try. -/
instance : Gate RateWindow Span Bool where
  call w now spacing := w.tryAdmit now spacing

namespace RateWindow

variable {w : RateWindow} {now : Moment} {d : Span} {tries : List (Moment × Span)}

/-- **A window is open a spacing behind the moment it holds**, and before that moment
it is not. -/
theorem isOpen_iff_apart (hpos : 0 < d.toNanos) :
    w.isOpen now d = true ↔ Moment.Apart d w.lastAdmitted now := by
  rw [isOpen_iff, Moment.Apart]
  omega

/-! ## Tries in a row -/

/-- **What a window admits** of tries in a row: their moments. -/
def admitted (w : RateWindow) (tries : List (Moment × Span)) : List Moment :=
  Gate.passed (fun _ => true) id w tries

/-- An admitted try is the first of those, and the window goes on from there. -/
theorem admitted_cons_of_isOpen (h : w.isOpen now d = true) :
    w.admitted ((now, d) :: tries) = now :: (openedAt now).admitted tries := by
  simp [admitted, Gate.passed, Gate.call, tryAdmit_of_isOpen h]

/-- A denied one is none of them. -/
theorem admitted_cons_of_not_isOpen (h : ¬ w.isOpen now d = true) :
    w.admitted ((now, d) :: tries) = w.admitted tries := by
  simp [admitted, Gate.passed, Gate.call, tryAdmit_of_not_isOpen h]

/-- **What is admitted comes in strict order**, behind the moment the window held. -/
theorem pairwise_admitted (hpos : ∀ t ∈ tries, 0 < t.2.toNanos) :
    (w.lastAdmitted :: w.admitted tries).Pairwise fun s t => s.toNanos < t.toNanos := by
  induction tries generalizing w with
  | nil => exact List.pairwise_singleton _ _
  | cons t tries ih =>
    obtain ⟨now, d⟩ := t
    obtain ⟨hd, htries⟩ := List.forall_mem_cons.1 hpos
    by_cases hopen : w.isOpen now d = true
    · -- all that comes behind the try comes behind the moment held before as well
      have hrest := ih (w := openedAt now) htries
      have hmoved : w.lastAdmitted.toNanos < now.toNanos := by
        have hapart := (isOpen_iff_apart hd).1 hopen
        unfold Moment.Apart at hapart
        omega
      rw [admitted_cons_of_isOpen hopen]
      refine List.pairwise_cons.2 ⟨fun u hu => ?_, hrest⟩
      rcases List.mem_cons.1 hu with rfl | hu
      · exact hmoved
      · exact Nat.lt_trans hmoved (List.rel_of_pairwise_cons hrest hu)
    · rw [admitted_cons_of_not_isOpen hopen]
      exact ih htries

/-- **What is admitted ends with the moment the window holds.** -/
theorem getLast?_admitted (w : RateWindow) (tries : List (Moment × Span)) :
    (w.lastAdmitted :: w.admitted tries).getLast? = some (Gate.after w tries).lastAdmitted := by
  induction tries generalizing w with
  | nil => rfl
  | cons t tries ih =>
    obtain ⟨now, d⟩ := t
    by_cases hopen : w.isOpen now d = true
    · have hafter : Gate.after w ((now, d) :: tries) = Gate.after (openedAt now) tries := by
        simp [Gate.after, Gate.call, tryAdmit_of_isOpen hopen]
      rw [admitted_cons_of_isOpen hopen, hafter, List.getLast?_cons_cons]
      exact ih (openedAt now)
    · have hafter : Gate.after w ((now, d) :: tries) = Gate.after w tries := by
        simp [Gate.after, Gate.call, tryAdmit_of_not_isOpen hopen]
      rw [admitted_cons_of_not_isOpen hopen, hafter]
      exact ih w

/-- The moment the window holds is the latest of all that were admitted. -/
theorem isLatest_admitted (hpos : ∀ t ∈ tries, 0 < t.2.toNanos) :
    (Gate.after w tries).IsLatest (· ∈ w.lastAdmitted :: w.admitted tries) := by
  obtain ⟨before, hsplit⟩ := List.getLast?_eq_some_iff.1 (w.getLast?_admitted tries)
  have horder := pairwise_admitted (w := w) hpos
  rw [hsplit] at horder ⊢
  refine ⟨List.mem_concat_self, fun t ht => ?_⟩
  rcases List.mem_append.1 ht with ht | ht
  · exact Nat.le_of_lt ((List.pairwise_append.1 horder).2.2 t ht _ (List.mem_singleton_self _))
  · rw [List.mem_singleton.1 ht]

end RateWindow

/-- **A window only moves forward.** In tries in a row at whatever moments, each with a
spacing that has a length, the moment a window was opened at and those it has admitted
come in strict order, and it holds the latest of them. From there, a try is admitted
exactly if it lies at least its spacing behind the moment held, to the nanosecond; the
window then holds the moment of the try, and the one it held otherwise. And of every
window: once open it stays open, once stale it stays stale, and where twice a spacing is
a span, a window stale at that age is from then on open at the spacing. -/
theorem windows_only_move_forward :
    (∀ (opened : Moment) (tries : List (Moment × Span)), (∀ t ∈ tries, Span.zero < t.2) →
      let times := opened :: (RateWindow.openedAt opened).admitted tries
      let w := Gate.after (RateWindow.openedAt opened) tries
      times.Pairwise (fun s t => s.toNanos < t.toNanos) ∧ w.IsLatest (· ∈ times) ∧
        ∀ (now : Moment) (d : Span), Span.zero < d →
          ((w.tryAdmit now d).1 = true ↔ w.lastAdmitted.toNanos + d.toNanos ≤ now.toNanos) ∧
            (w.tryAdmit now d).2 =
              if (w.tryAdmit now d).1 then RateWindow.openedAt now else w) ∧
      ∀ (w : RateWindow) (now later : Moment), now.toNanos ≤ later.toNanos → ∀ d : Span,
        (w.isOpen now d = true → w.isOpen later d = true) ∧
          (w.isStale now d = true → w.isStale later d = true) ∧
          ∀ age, d.timesInWords? 2 = some age → w.isStale now age = true →
            w.isOpen later d = true := by
  have hlength : ∀ {d : Span}, Span.zero < d → 0 < d.toNanos := fun h => Span.lt_iff.1 h
  refine ⟨fun opened tries hpos => ?_, fun w now later hle d =>
    ⟨RateWindow.isOpen_mono hle, RateWindow.isStale_mono hle, fun age hage hstale => ?_⟩⟩
  · have hpos' : ∀ t ∈ tries, 0 < t.2.toNanos := fun t ht => hlength (hpos t ht)
    refine ⟨RateWindow.pairwise_admitted hpos', RateWindow.isLatest_admitted hpos',
      fun now d hd => ?_⟩
    generalize Gate.after (RateWindow.openedAt opened) tries = w
    have hiff : w.isOpen now d = true ↔ Moment.Apart d w.lastAdmitted now :=
      RateWindow.isOpen_iff_apart (hlength hd)
    by_cases hopen : w.isOpen now d = true
    · rw [RateWindow.tryAdmit_of_isOpen hopen]
      exact ⟨iff_of_true rfl (hiff.1 hopen), rfl⟩
    · rw [RateWindow.tryAdmit_of_not_isOpen hopen]
      exact ⟨iff_of_false Bool.false_ne_true (mt hiff.2 hopen), rfl⟩
  · rw [Span.timesInWords?_eq_some_iff (by omega)] at hage
    exact RateWindow.isOpen_of_isStale (by omega) hle hstale

/-- A window is opened a hundred seconds on and tried in the past, a spacing of ten
seconds later, once more in between, and a nanosecond later at a spacing of one. It
admits the second and the last of these tries, and lets go of nothing that a try after
twenty more seconds would have had to wait for. -/
theorem windows_only_move_forward_on_a_wild_clock :
    let opened : Moment := ⟨100, 0, by decide, by decide⟩
    let second : Moment := ⟨110, 0, by decide, by decide⟩
    let last : Moment := ⟨110, 1, by decide, by decide⟩
    let later : Moment := ⟨130, 2, by decide, by decide⟩
    let ten : Span := ⟨10, 0, by decide, by decide⟩
    let twenty : Span := ⟨20, 0, by decide, by decide⟩
    let one : Span := ⟨0, 1, by decide, by decide⟩
    let tries := [(⟨50, 0, by decide, by decide⟩, one), (second, ten),
      (⟨105, 0, by decide, by decide⟩, one), (last, one)]
    let w := Gate.after (RateWindow.openedAt opened) tries
    (∀ t ∈ tries, Span.zero < t.2) ∧
      (RateWindow.openedAt opened).admitted tries = [second, last] ∧ w.lastAdmitted = last ∧
      w.IsLatest (· ∈ [opened, second, last]) ∧ ten.timesInWords? 2 = some twenty ∧
      w.isStale later twenty = true ∧ w.isOpen later ten = true := by
  intro opened second last later ten twenty one tries w
  have hpos : ∀ t ∈ tries, Span.zero < t.2 := by decide
  have hadmitted : (RateWindow.openedAt opened).admitted tries = [second, last] := by decide
  have hage : ten.timesInWords? 2 = some twenty := by decide
  have hstale : w.isStale later twenty = true := by decide
  obtain ⟨hruns, hwindows⟩ := windows_only_move_forward
  obtain ⟨-, hlatest, -⟩ := hruns opened tries hpos
  rw [hadmitted] at hlatest
  exact ⟨hpos, hadmitted, by decide, hlatest, hage, hstale,
    (hwindows w later later (Nat.le_refl _) ten).2.2 twenty hage hstale⟩

end Herald
