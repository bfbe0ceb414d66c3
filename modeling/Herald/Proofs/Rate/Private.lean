import Herald.Proofs.Rate.Period
/-!
# Every domain has a gate of its own

The two gates are written apart: one tries its window in place, the other looks a
domain's entry up and puts a new window in its stead. Behind both is `SingleGate`,
one window and a spacing of whatever length. The global gate is one, and the domain
gate is one for each domain: a check of a domain is a check of its single gate, and
to the single gate of any other it is nothing (`DomainGate.single_check`,
`DomainGate.single_check_of_ne`). So what a run is to one domain is what its own
checks make of a gate that is asked nothing else (`Gate.course_eq`), on a clock that
may turn back as well.
-/

namespace Herald

/-! ## One window -/

/-- **A gate of one window**, at any spacing. -/
structure SingleGate where
  spacing : Span
  window : Option RateWindow

namespace SingleGate

/-- One check at a moment: the window is tried, or made where there is none. -/
def check (p : SingleGate) (now : Moment) : Bool × SingleGate :=
  match p.window with
  | some w =>
    let (admitted, w') := w.tryAdmit now p.spacing
    (admitted, { p with window := some w' })
  | none => (true, { p with window := some (.openedAt now) })

/-- What checks in a row are answered, each with the window it leaves. -/
def course (p : SingleGate) : List Moment → List (Bool × Option RateWindow)
  | [] => []
  | now :: times => ((p.check now).1, (p.check now).2.window) :: (p.check now).2.course times

/-- **The two ways to check a window agree**, at every spacing: a present one is
tried, or replaced where a new one is put in its stead. -/
theorem check_eq_renew (d : Span) (now : Moment) (w : Option RateWindow) :
    (mk d w).check now
      = ((DomainGate.renew d now w).isSome, ⟨d, (DomainGate.renew d now w).or w⟩) := by
  unfold check DomainGate.renew
  rcases w with _ | w
  · rfl
  · by_cases hopen : w.isOpen now d = true
    · simp [RateWindow.tryAdmit, hopen]
    · simp [RateWindow.tryAdmit, hopen]

end SingleGate

/-! ## Courses -/

namespace Gate

variable {γ ι α : Type} [Gate γ ι α] {asks : ι → Bool} {tell : α → Bool}
  {window : γ → Option RateWindow} {g : γ} {now : Moment} {i : ι} {calls : List (Moment × ι)}

/-- **The course of the calls of a kind**: what each of them was answered, and the
window it left. -/
def course (asks : ι → Bool) (tell : α → Bool) (window : γ → Option RateWindow) (g : γ) :
    List (Moment × ι) → List (Bool × Option RateWindow)
  | [] => []
  | (now, i) :: calls =>
    (if asks i then [(tell (call g now i).1, window (call g now i).2)] else [])
      ++ course asks tell window (call g now i).2 calls

/-- A call of the kind is part of it. -/
theorem course_cons_of_asks (hi : asks i = true) :
    course asks tell window g ((now, i) :: calls)
      = (tell (call g now i).1, window (call g now i).2)
        :: course asks tell window (call g now i).2 calls := by
  simp [course, hi]

/-- Another call is not, whatever it does to the gate. -/
theorem course_cons_of_not (hi : ¬ asks i = true) :
    course asks tell window g ((now, i) :: calls)
      = course asks tell window (call g now i).2 calls := by
  simp [course, hi]

/-- **A gate seen as a single one.** Where the calls of a kind are checks of a single
gate that is seen in another, and the other calls leave it alone, their course is
the course of the single gate, which is asked nothing else. -/
theorem course_eq (allowed : ι → Bool) (see : γ → SingleGate)
    (hanswer : ∀ g now i, asks i = true → tell (call g now i).1 = ((see g).check now).1)
    (hsee : ∀ g now i, asks i = true → see (call g now i).2 = ((see g).check now).2)
    (hothers : ∀ g now i, allowed i = true → ¬ asks i = true → see (call g now i).2 = see g)
    (g : γ) (hallowed : ∀ c ∈ calls, allowed c.2 = true) :
    course asks tell (fun g => (see g).window) g calls
      = (see g).course ((calls.filter fun c => asks c.2).map Prod.fst) := by
  induction calls generalizing g with
  | nil => rfl
  | cons c calls ih =>
    obtain ⟨now, i⟩ := c
    obtain ⟨hi, hcalls⟩ := List.forall_mem_cons.1 hallowed
    have hrest := ih (call g now i).2 hcalls
    by_cases ha : asks i = true
    · have hfilter : ((now, i) :: calls).filter (fun c => asks c.2)
          = (now, i) :: calls.filter fun c => asks c.2 := List.filter_cons_of_pos ha
      rw [hsee g now i ha] at hrest
      rw [course_cons_of_asks ha, hfilter, List.map_cons, SingleGate.course,
        hanswer g now i ha, hsee g now i ha, hrest]
    · have hfilter : ((now, i) :: calls).filter (fun c => asks c.2)
          = calls.filter fun c => asks c.2 := List.filter_cons_of_neg ha
      rw [hothers g now i hi ha] at hrest
      rw [course_cons_of_not ha, hfilter, hrest]

end Gate

/-! ## The two gates -/

namespace GlobalGate

/-- The single gate that the global gate is. -/
def single (g : GlobalGate) : SingleGate := ⟨g.spacing, g.window⟩

/-- **A check of the global gate is a check of its single gate.** -/
theorem single_check (g : GlobalGate) (now : Moment) :
    (g.check now).1 = (g.single.check now).1
      ∧ (g.check now).2.single = (g.single.check now).2 := by
  simp only [check, single, window_setWindow, spacing_setWindow]
  rcases g.window with _ | w
  · exact ⟨rfl, rfl⟩
  · exact ⟨rfl, rfl⟩

/-- What checks in a row are answered, each with the window it leaves. -/
def course (g : GlobalGate) (times : List Moment) : List (Bool × Option RateWindow) :=
  Gate.course (fun _ => true) id window g (times.map fun t => (t, ()))

/-- **The global gate is its single gate** in every run. -/
theorem course_eq_single (g : GlobalGate) (times : List Moment) :
    g.course times = g.single.course times := by
  have hcourse : g.course times = g.single.course
      (((times.map fun t => (t, ())).filter fun _ => true).map Prod.fst) :=
    Gate.course_eq (fun _ => true) single (fun g now _ _ => (g.single_check now).1)
      (fun g now _ _ => (g.single_check now).2) (fun _ _ _ _ h => absurd rfl h) g fun _ _ => rfl
  rwa [List.filter_true, List.map_map, Function.comp_def, List.map_id'] at hcourse

end GlobalGate

namespace DomainGate

variable {x y : String}

/-- The single gate that a domain has. -/
def single (x : String) (g : DomainGate) : SingleGate := ⟨g.spacing, g.window x⟩

/-- **A check of a domain is a check of its single gate.** -/
theorem single_check (g : DomainGate) (x : String) (now : Moment) :
    (g.check x now).1 = ((g.single x).check now).1
      ∧ (g.check x now).2.single x = ((g.single x).check now).2 := by
  rw [single, SingleGate.check_eq_renew]
  unfold single check Store.upsertIf window
  rcases hw : DomainGate.renew g.spacing now (g.windows.get? x) with _ | w
  · exact ⟨rfl, rfl⟩
  · refine ⟨rfl, ?_⟩
    simp [Store.get?_put, spacing]

/-- **To the single gate of another domain it is nothing.** -/
theorem single_check_of_ne (g : DomainGate) (hne : x ≠ y) (now : Moment) :
    (g.check y now).2.single x = g.single x := by
  unfold single
  rcases hadm : (g.check y now).1 with _ | _
  · rw [check_denied hadm]
  · rw [window_check_admitted hadm, if_neg hne]
    rfl

/-- What the checks of one domain are answered in a run of checks, each with the
window that the domain has then. -/
def course (x : String) (g : DomainGate) (checks : List (Moment × String)) :
    List (Bool × Option RateWindow) :=
  Gate.course (DomainCall.isCheckOf x) DomainAnswer.isAdmission (window · x) g
    (checks.map fun c => (c.1, .check c.2))

/-- **A domain's course is that of its single gate**, which is asked nothing but the
checks of the domain. -/
theorem course_eq_single (g : DomainGate) (x : String) (checks : List (Moment × String)) :
    g.course x checks
      = (g.single x).course ((checks.filter fun c => c.2 = x).map Prod.fst) := by
  have hfilter : ((checks.map fun c => (c.1, DomainCall.check c.2)).filter
      fun c => c.2.isCheckOf x).map Prod.fst = (checks.filter fun c => c.2 = x).map Prod.fst := by
    simp [List.filter_map, DomainCall.isCheckOf, Function.comp_def]
  rw [← hfilter]
  refine Gate.course_eq DomainCall.isCheck (single x) ?_ ?_ ?_ g ?_
  · intro g now i hi
    obtain rfl : i = .check x := of_decide_eq_true hi
    have hanswer := (g.single_check x now).1
    simp [Gate.call, DomainAnswer.isAdmission, hanswer]
  · intro g now i hi
    obtain rfl : i = .check x := of_decide_eq_true hi
    exact (g.single_check x now).2
  · -- a check that is not of this domain is of another one
    intro g now i hcheck hi
    obtain ⟨y⟩ | _ := i
    · refine g.single_check_of_ne (fun hxy => hi ?_) now
      simp [DomainCall.isCheckOf, hxy]
    · cases hcheck
  · intro c hc
    obtain ⟨e, -, rfl⟩ := List.mem_map.1 hc
    rfl

end DomainGate

/-- **Every domain has a gate of its own, and it is the global gate's kind of gate.**
In a run of checks at whatever moments, what those of one domain are answered, and
the windows it then has, are those of a single gate at the same spacing that begins
with the domain's window and is asked these checks alone, so that leaving out the
checks of other domains makes no difference. The global gate is such a single gate
itself; and at every spacing, what a single gate makes of its window is what the
domain gate makes of an entry. -/
theorem domains_have_private_gates :
    (∀ (g : DomainGate) (checks : List (Moment × String)) (x : String),
      g.course x checks
          = (SingleGate.mk g.spacing (g.window x)).course
              ((checks.filter fun c => c.2 = x).map Prod.fst)
        ∧ g.course x (checks.filter fun c => c.2 = x) = g.course x checks) ∧
      (∀ (g : GlobalGate) (times : List Moment),
        g.course times = (SingleGate.mk g.spacing g.window).course times) ∧
      ∀ (d : Span) (now : Moment) (w : Option RateWindow),
        (SingleGate.mk d w).check now
          = ((DomainGate.renew d now w).isSome, ⟨d, (DomainGate.renew d now w).or w⟩) := by
  refine ⟨fun g checks x => ⟨g.course_eq_single x checks, ?_⟩, GlobalGate.course_eq_single,
    SingleGate.check_eq_renew⟩
  rw [g.course_eq_single, g.course_eq_single, List.filter_filter]
  simp

end Herald
