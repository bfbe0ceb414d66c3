import Herald.Proofs.Dispatch.Checks
import Herald.Proofs.Rate.Latest
/-!
# Answers from the history

The gates keep one moment for each scope and prunes throw some of these away,
yet every check is answered as if all earlier checks had been looked through:
`Admission.ofHistory` says how. `Remembers` is the invariant that makes it so.
A window holds the latest moment of its scope, and a domain without a window
has no admission that could still deny it; the second half is where prunes
need a clock that does not run backwards.
-/

namespace Herald

namespace Check

variable {past : List Check} {domain : String} {now t : Moment} {a : Admission}

/-- One of some checks was let through by the global gate at a moment. -/
def PassedAt (past : List Check) (t : Moment) : Prop :=
  ∃ p ∈ past, p.answer ≠ .blocked .global ∧ p.time = t

/-- One of some checks was an admission of a domain at a moment. -/
def AdmittedAt (past : List Check) (domain : String) (t : Moment) : Prop :=
  ∃ p ∈ past, p.answer = .admitted ∧ p.domain = domain ∧ p.time = t

/-- One more check: it was let through or not. -/
theorem passedAt_concat {p : Check} :
    PassedAt (past ++ [p]) t ↔ PassedAt past t ∨ (p.answer ≠ .blocked .global ∧ t = p.time) := by
  simp [PassedAt, or_and_right, exists_or, eq_comm]

/-- One more check: it was an admission of the domain or not. -/
theorem admittedAt_concat {p : Check} :
    AdmittedAt (past ++ [p]) domain t
      ↔ AdmittedAt past domain t ∨ (p.answer = .admitted ∧ p.domain = domain ∧ t = p.time) := by
  simp [AdmittedAt, or_and_right, exists_or, eq_comm]

end Check

/-- **The answer the history gives**, for two spacings and the checks made so
far. A check is blocked by the global gate if an earlier one that was not
lies less than the global spacing back, else by its domain if an admission
of that domain lies less than the domain's spacing back. -/
def Admission.ofHistory (globalSpacing domainSpacing : Span) (past : List Check)
    (domain : String) (now : Moment) : Admission :=
  if ∃ p ∈ past, p.answer ≠ .blocked .global ∧ now.since p.time < globalSpacing then
    .blocked .global
  else if ∃ p ∈ past, p.answer = .admitted ∧ p.domain = domain
      ∧ now.since p.time < domainSpacing then
    .blocked .domain
  else .admitted

namespace Admission

variable {globalSpacing domainSpacing : Span} {past : List Check} {domain : String} {now : Moment}

theorem ofHistory_of_passedAt
    (h : ∃ t, Check.PassedAt past t ∧ now.since t < globalSpacing) :
    ofHistory globalSpacing domainSpacing past domain now = .blocked .global := by
  obtain ⟨t, ⟨p, hp, hpass, rfl⟩, hlt⟩ := h
  exact if_pos ⟨p, hp, hpass, hlt⟩

theorem ofHistory_of_admittedAt
    (hg : ∀ t, Check.PassedAt past t → ¬ now.since t < globalSpacing)
    (h : ∃ t, Check.AdmittedAt past domain t ∧ now.since t < domainSpacing) :
    ofHistory globalSpacing domainSpacing past domain now = .blocked .domain := by
  obtain ⟨t, ⟨p, hp, hadm, hdom, rfl⟩, hlt⟩ := h
  rw [ofHistory, if_neg fun ⟨q, hq, hpass, hq'⟩ => hg _ ⟨q, hq, hpass, rfl⟩ hq',
    if_pos ⟨p, hp, hadm, hdom, hlt⟩]

theorem ofHistory_of_forall
    (hg : ∀ t, Check.PassedAt past t → ¬ now.since t < globalSpacing)
    (hd : ∀ t, Check.AdmittedAt past domain t → ¬ now.since t < domainSpacing) :
    ofHistory globalSpacing domainSpacing past domain now = .admitted := by
  rw [ofHistory, if_neg fun ⟨q, hq, hpass, hq'⟩ => hg _ ⟨q, hq, hpass, rfl⟩ hq',
    if_neg fun ⟨q, hq, hadm, hdom, hq'⟩ => hd _ ⟨q, hq, hadm, hdom, rfl⟩ hq']

end Admission

namespace Service

variable {s s' : Service} {past : List Check} {forgets : Prop}

/-- **What the gates keep of the history**: each remembers the moments at which
it let a check through. -/
structure Remembers (forgets : Prop) (s : Service) (past : List Check) : Prop where
  globalGate : s.dispatcher.globalGate.Remembers (Check.PassedAt past)
  domainGate : s.dispatcher.domainGate.Remembers forgets s.clock.time (Check.AdmittedAt past)

namespace Remembers

/-- A service that has not done anything remembers that nothing was done. -/
theorem begin_nil (forgets : Prop) (settings : Settings) (product endpoint : String) (c : Clock) :
    Remembers forgets (begin (.ofSettings settings product endpoint) c) [] where
  globalGate :=
    { latest := fun _ hw => nomatch hw
      nothing := fun _ _ => by simp [Check.PassedAt] }
  domainGate :=
    { latest := fun _ _ hw => nomatch hw
      elapsed := fun _ _ _ ht => by simp [Check.AdmittedAt] at ht }

/-- **A check is answered by the history.** -/
theorem answer_eq (h : Remembers forgets s past) {x : String} {a : Admission} {d : Dispatcher}
    (went : Dispatcher.CheckAt s.dispatcher x s.clock.time a d) :
    a = .ofHistory s.dispatcher.globalGate.spacing s.dispatcher.domainGate.spacing past x
      s.clock.time := by
  cases went with
  | blockedByGlobal closed =>
    have hex : ¬ _ := mt h.globalGate.passes_iff.2 (by rw [closed]; exact Bool.false_ne_true)
    simp only [not_forall, not_not] at hex
    obtain ⟨t, ht, hlt⟩ := hex
    exact (Admission.ofHistory_of_passedAt ⟨t, ht, hlt⟩).symm
  | blockedByDomain passed closed =>
    have hex : ¬ _ := mt h.domainGate.admits_iff.2 (by rw [closed]; exact Bool.false_ne_true)
    simp only [not_forall, not_not] at hex
    obtain ⟨t, ht, hlt⟩ := hex
    exact (Admission.ofHistory_of_admittedAt (h.globalGate.passes_iff.1 passed)
      ⟨t, ht, hlt⟩).symm
  | admitted passed admitted =>
    exact (Admission.ofHistory_of_forall (h.globalGate.passes_iff.1 passed)
      (h.domainGate.admits_iff.1 admitted)).symm

/-- **A check keeps the memory**, with itself added to the history. -/
theorem check (h : Remembers forgets s past) {x : String} {a : Admission} {d : Dispatcher}
    (went : Dispatcher.CheckAt s.dispatcher x s.clock.time a d)
    (gates : s'.dispatcher.gates = d.gates) (clock : s'.clock = s.clock) :
    Remembers forgets s' (past ++ [⟨x, s.clock.time, a⟩]) := by
  refine ⟨?_, ?_⟩
  · rw [Dispatcher.globalGate_of_gates gates]
    cases went with
    | blockedByGlobal closed => exact h.globalGate.congr (by simp [Check.passedAt_concat])
    | blockedByDomain passed closed =>
      exact (h.globalGate.pass passed).congr (by simp [Check.passedAt_concat])
    | admitted passed admitted =>
      exact (h.globalGate.pass passed).congr (by simp [Check.passedAt_concat])
  · rw [Dispatcher.domainGate_of_gates gates, clock]
    cases went with
    | blockedByGlobal closed => exact h.domainGate.congr (by simp [Check.admittedAt_concat])
    | blockedByDomain passed closed =>
      exact h.domainGate.congr (by simp [Check.admittedAt_concat])
    | admitted passed admitted =>
      exact (h.domainGate.admission admitted).congr (by simp [Check.admittedAt_concat, eq_comm])

/-- **A step keeps the memory**, with the check it makes added to the
history. A prune needs leave to forget, and then the clock may not turn
back. -/
theorem step (h : Remembers forgets s past) (c : Command) (hprune : c = .prune → forgets)
    (hclock : forgets → s.clock.time.toNanos ≤ (s.step c).2.clock.time.toNanos) :
    Remembers forgets (s.step c).2
      (past ++ (Check.of? s.clock.time c (s.step c).1).toList) := by
  have hstep := s.gateStep c
  generalize Check.of? s.clock.time c (s.step c).1 = made at hstep ⊢
  cases hstep with
  | check went gates clock => exact h.check went gates clock
  | prune isPrune gates clock =>
    rw [Option.toList_none, List.append_nil]
    refine ⟨?_, ?_⟩
    · rw [Dispatcher.globalGate_of_gates gates, Dispatcher.globalGate_pruneAt]
      exact h.globalGate
    · rw [Dispatcher.domainGate_of_gates gates, Dispatcher.domainGate_pruneAt, clock]
      exact h.domainGate.prune (hprune isPrune)
  | failed gates =>
    rw [Option.toList_none, List.append_nil]
    refine ⟨?_, ?_⟩
    · rw [Dispatcher.globalGate_of_gates gates]
      exact h.globalGate.poison
    · rw [Dispatcher.domainGate_of_gates gates]
      exact h.domainGate.at_later hclock
  | idle gates =>
    rw [Option.toList_none, List.append_nil]
    refine ⟨?_, ?_⟩
    · rw [Dispatcher.globalGate_of_gates gates]
      exact h.globalGate
    · rw [Dispatcher.domainGate_of_gates gates]
      exact h.domainGate.at_later hclock

end Remembers

/-- No step changes the spacings. -/
theorem spacings_step (s : Service) (c : Command) :
    (s.step c).2.dispatcher.globalGate.spacing = s.dispatcher.globalGate.spacing
      ∧ (s.step c).2.dispatcher.domainGate.spacing = s.dispatcher.domainGate.spacing := by
  have hstep := s.gateStep c
  generalize Check.of? s.clock.time c (s.step c).1 = made at hstep
  cases hstep with
  | check went gates clock =>
    rw [Dispatcher.globalGate_of_gates gates, Dispatcher.domainGate_of_gates gates]
    cases went <;> exact ⟨rfl, rfl⟩
  | prune isPrune gates clock =>
    rw [Dispatcher.globalGate_of_gates gates, Dispatcher.domainGate_of_gates gates,
      Dispatcher.globalGate_pruneAt, Dispatcher.domainGate_pruneAt]
    exact ⟨rfl, rfl⟩
  | failed gates | idle gates =>
    rw [Dispatcher.globalGate_of_gates gates, Dispatcher.domainGate_of_gates gates]
    exact ⟨rfl, rfl⟩

/-- **The check of a step is answered by the history.** -/
theorem answer_of_step (h : Remembers forgets s past) {c : Command} {x : Check}
    (hx : Check.of? s.clock.time c (s.step c).1 = some x) :
    x.answer = .ofHistory s.dispatcher.globalGate.spacing s.dispatcher.domainGate.spacing past
      x.domain x.time := by
  have hstep := s.gateStep c
  rw [hx] at hstep
  cases hstep with
  | check went gates clock => exact h.answer_eq went

/-- **The checks of a run are answered by the history**, which is what was
remembered before the run and the checks made in it so far. -/
theorem answer_of_run (h : Remembers forgets s past) {cs : List Command}
    (hprune : .prune ∈ cs → forgets) (hclock : forgets → s.MovesForward cs)
    (before : List Check) (x : Check) (rest : List Check)
    (hx : s.checks cs = before ++ x :: rest) :
    x.answer = .ofHistory s.dispatcher.globalGate.spacing s.dispatcher.domainGate.spacing
      (past ++ before) x.domain x.time := by
  induction cs generalizing s past before with
  | nil => simp [checks] at hx
  | cons c cs ih =>
    have hkept := h.step c (fun hc => hprune (hc ▸ List.mem_cons_self)) fun hf => (hclock hf).1
    have hrest := ih hkept (fun hc => hprune (List.mem_cons_of_mem c hc)) fun hf => (hclock hf).2
    rw [(s.spacings_step c).1, (s.spacings_step c).2] at hrest
    rw [checks] at hx
    cases hmade : Check.of? s.clock.time c (s.step c).1 with
    | none =>
      rw [hmade] at hx hrest
      simpa using hrest before hx
    | some y =>
      rw [hmade, Option.toList_some, List.singleton_append] at hx
      rw [hmade, Option.toList_some] at hrest
      rcases List.cons_eq_append_iff.1 hx with ⟨rfl, hxs⟩ | ⟨before', rfl, hxs⟩
      · -- the check of this step
        obtain ⟨rfl, -⟩ := List.cons.inj hxs
        simpa using answer_of_step h hmade
      · -- a check of the rest of the run, which has this one behind it
        simpa using hrest before' hxs

end Service

/-- **Every check is answered as its history says.** In a run of a new service,
of any commands in any order, the earlier checks alone fix the answer of each
check that is made: it is blocked by the global gate exactly if one of them
that was not lies less than the global spacing back, and otherwise by its
domain exactly if an admission of that domain lies less than the domain's
spacing back. Only a run with prunes needs a clock that does not turn
back. -/
theorem checks_follow_history (settings : Settings) (product endpoint : String) (c : Clock)
    (cs : List Command)
    (hclock : .prune ∈ cs →
      (Service.begin (.ofSettings settings product endpoint) c).MovesForward cs)
    (past : List Check) (x : Check) (rest : List Check)
    (hx : (Service.begin (.ofSettings settings product endpoint) c).checks cs
      = past ++ x :: rest) :
    x.answer = .ofHistory (spacing settings.globalRate globalPeriod)
      (spacing settings.domainRate domainPeriod) past x.domain x.time :=
  Service.answer_of_run (.begin_nil (.prune ∈ cs) settings product endpoint c) id hclock past x
    rest hx

/-- A run in which a domain is blocked, forgotten by a prune and admitted
again. -/
theorem checks_follow_history_past_prune :
    let s := Service.begin (.ofSettings .default "" "") .fresh
    let cs : List Command := [.check "a", .advance (.ofSeconds 60 (by decide)), .check "a",
      .check "b", .advance (.ofSeconds 541 (by decide)), .prune, .check "a"]
    let past : List Check := [⟨"a", .start, .admitted⟩,
      ⟨"a", ⟨60, 0, by decide, by decide⟩, .blocked .domain⟩,
      ⟨"b", ⟨60, 0, by decide, by decide⟩, .blocked .global⟩]
    let x : Check := ⟨"a", ⟨601, 0, by decide, by decide⟩, .admitted⟩
    .prune ∈ cs ∧ s.MovesForward cs ∧ s.checks cs = past ++ [x]
      ∧ x.answer = .ofHistory (spacing 1 globalPeriod) (spacing 1 domainPeriod) past x.domain
          x.time := by
  intro s cs past x
  have hclock : s.MovesForward cs := by decide
  have hchecks : s.checks cs = past ++ [x] := by decide
  exact ⟨by simp [cs], hclock, hchecks,
    checks_follow_history .default "" "" .fresh cs (fun _ => hclock) past x [] hchecks⟩

end Herald
