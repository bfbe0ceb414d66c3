import Herald.Rate.Calls
/-!
# When a gate gets no reading

The domain gate reads the clock while it looks at an entry, and the global gate
while it holds its lock. Neither has written anything by then, so a call that gets
no reading leaves every window as it was; but the lock is poisoned, and what comes
next has to go on in spite of it. `ClockGate.Recovers` says this of a gate, with
`heal` for the gate as if its lock had never been poisoned: the domain gate has
nothing to heal (`DomainGate.recovers`), and the global gate has its lock
(`GlobalGate.recovers`). From these three laws the rest follows. A failure that was
asked for is used up by the call it ends, and from then on everything goes as if
neither had been (`run_call_armed`); a broken clock goes on failing, and what stands
behind it never changes again (`gate_after_of_isBroken`).
-/

namespace Herald

/-- **A gate that gets over failed calls.** `heal` takes away what they leave
behind. -/
structure ClockGate.Recovers {γ ι α : Type} [ClockGate γ ι α] (heal : γ → γ) : Prop where
  /-- A call that gets a reading is a call at that moment. -/
  callBy_of_ok : ∀ {c c' : Clock} {now : Moment}, c.read = (.ok now, c') → ∀ (g : γ) (i : ι),
    ClockGate.callBy g i c = (.ok (Gate.call g now i).1, (Gate.call g now i).2, c')
  /-- One that gets none ends with the fault and leaves nothing else behind. -/
  callBy_of_error : ∀ {c c' : Clock} {f : ClockFault}, c.read = (.error f, c') →
    ∀ (g : γ) (i : ι), ∃ g', ClockGate.callBy g i c = (.error f, g', c') ∧ heal g' = heal g
  /-- What is left behind makes no difference to a later call. -/
  call_heal : ∀ (g : γ) (now : Moment) (i : ι),
    Gate.call (heal g) now i = ((Gate.call g now i).1, heal (Gate.call g now i).2)

/-- **The domain gate writes after it has read**, and has nothing to get over. -/
theorem DomainGate.recovers : ClockGate.Recovers (id : DomainGate → DomainGate) where
  callBy_of_ok h g i := by
    cases i with
    | check domain => simp only [ClockGate.callBy, Gate.call, checkBy_of_ok h]
    | prune => simp only [ClockGate.callBy, Gate.call, pruneBy_of_ok h]
  callBy_of_error h g i := by
    refine ⟨g, ?_, rfl⟩
    cases i with
    | check domain => simp only [ClockGate.callBy, checkBy_of_error h]
    | prune => simp only [ClockGate.callBy, pruneBy_of_error h]
  call_heal _ _ _ := rfl

/-- **The global gate goes on with the window of a poisoned lock**, which is the one
from before the failure. -/
theorem GlobalGate.recovers : ClockGate.Recovers GlobalGate.heal where
  callBy_of_ok h g _ := checkBy_of_ok h g
  callBy_of_error h g _ := ⟨g.poison, checkBy_of_error h g, g.heal_poison⟩
  call_heal g now _ := g.check_heal now

/-- Whether a step moves the clock and does nothing else. -/
def ClockedCommand.isMove {ι : Type} : ClockedCommand ι → Bool
  | .advance _ | .setOffset _ => true
  | .failNext | .call _ => false

namespace Clocked

variable {γ ι α : Type}

/-- The gate and its clock with no failure asked for. -/
def disarm (s : Clocked γ) : Clocked γ := { s with clock := s.clock.disarm }

@[simp] theorem move_snd (s : Clocked γ) (r : Except ClockFault Unit × Clock) :
    (s.move r : ClockedAnswer α × Clocked γ).2 = { s with clock := r.2 } := by
  rcases r with ⟨_ | _, _⟩ <;> rfl

theorem move_eq_fault_iff {s : Clocked γ} {r : Except ClockFault Unit × Clock} {f : ClockFault} :
    (s.move r : ClockedAnswer α × Clocked γ).1 = .fault f ↔ r.1 = .error f := by
  rcases r with ⟨_ | _, _⟩ <;> simp [move]

/-- A move comes to the same with or without a failure asked for. -/
theorem move_disarm (s : Clocked γ) (r : Except ClockFault Unit) (k : Clock) :
    (s.disarm.move (r, k.disarm) : ClockedAnswer α × Clocked γ)
      = ((s.move (r, k) : ClockedAnswer α × Clocked γ).1,
          (s.move (r, k) : ClockedAnswer α × Clocked γ).2.disarm) := by
  cases r <;> rfl

variable [ClockGate γ ι α] {heal : γ → γ} {s t : Clocked γ}

/-- **Gates that are the same but for failures in the past**, next to the same clock:
`heal` takes away what such a failure leaves behind. -/
def Alike (heal : γ → γ) (s t : Clocked γ) : Prop := heal s.gate = heal t.gate ∧ s.clock = t.clock

/-! ## One step -/

/-- **A call without a reading** ends with the fault of the clock, and of the gate
nothing has changed that the failure does not account for. -/
theorem step_call_of_read_error (hgate : ClockGate.Recovers heal) {f : ClockFault} {k : Clock}
    (h : s.clock.read = (.error f, k)) (i : ι) :
    (s.step (.call i)).1 = .fault f ∧ (s.step (.call i)).2.Alike heal { s with clock := k } := by
  obtain ⟨g, hcall, hheal⟩ := hgate.callBy_of_error h s.gate i
  have hstep : s.step (.call i) = (.fault f, ⟨g, k⟩) := by simp only [step, hcall]
  rw [hstep]
  exact ⟨rfl, hheal, rfl⟩

/-- **A step does not see a failure in the past.** -/
theorem step_congr (hgate : ClockGate.Recovers heal) (h : s.Alike heal t)
    (c : ClockedCommand ι) :
    (s.step c).1 = (t.step c).1 ∧ (s.step c).2.Alike heal (t.step c).2 := by
  obtain ⟨hheal, hclock⟩ := h
  cases c with
  | advance d =>
    simp only [step, hclock]
    rcases t.clock.advance d with ⟨_ | _, k⟩ <;> exact ⟨rfl, hheal, rfl⟩
  | setOffset d =>
    simp only [step, hclock]
    rcases t.clock.setOffset d with ⟨_ | _, k⟩ <;> exact ⟨rfl, hheal, rfl⟩
  | failNext => exact ⟨rfl, hheal, congrArg Clock.failNext hclock⟩
  | call i =>
    rcases hread : t.clock.read with ⟨f | now, k⟩
    · have hread' : s.clock.read = (.error f, k) := hclock ▸ hread
      obtain ⟨hs, hgates, hclocks⟩ := step_call_of_read_error hgate hread' i
      obtain ⟨ht, hgatet, hclockt⟩ := step_call_of_read_error hgate hread i
      exact ⟨hs.trans ht.symm, hgates.trans (hheal.trans hgatet.symm), hclocks.trans hclockt.symm⟩
    · -- with a reading the call is one at that moment, and it goes as that of the healed gate
      have hread' : s.clock.read = (.ok now, k) := hclock ▸ hread
      have hs := hgate.callBy_of_ok hread' s.gate i
      have ht := hgate.callBy_of_ok hread t.gate i
      have hsame := hgate.call_heal s.gate now i
      rw [hheal, hgate.call_heal, Prod.mk.injEq] at hsame
      simp only [step, hs, ht]
      exact ⟨congrArg ClockedAnswer.answer hsame.1.symm, hsame.2.symm, rfl⟩

/-- A move that leads too far breaks the clock and does nothing else. -/
theorem step_beyondRange {c : ClockedCommand ι} (hmove : c.isMove = true)
    (h : (s.step c).1 = .fault .beyondRange) :
    (s.step c).2 = { s with clock := { s.clock with isBroken := true } } := by
  cases c with
  | advance d =>
    rw [step, move_snd, Clock.advance_beyondRange (move_eq_fault_iff.1 h)]
  | setOffset d =>
    rw [step, move_snd, Clock.setOffset_beyondRange (move_eq_fault_iff.1 h)]
  | failNext => cases hmove
  | call i => cases hmove

/-- **A move does not see a failure that was asked for**, and does not use it
up. -/
theorem step_move_disarm {c : ClockedCommand ι} (hmove : c.isMove = true) :
    s.disarm.step c = ((s.step c).1, (s.step c).2.disarm)
      ∧ (s.step c).2.clock.failsNext = s.clock.failsNext := by
  cases c with
  | advance d =>
    simp only [step]
    refine ⟨?_, by simp⟩
    rw [← move_disarm, ← Clock.advance_disarm]
    rfl
  | setOffset d =>
    simp only [step]
    refine ⟨?_, by simp⟩
    rw [← move_disarm, ← Clock.setOffset_disarm]
    rfl
  | failNext => cases hmove
  | call i => cases hmove

/-- With a broken clock a step changes no gate but for failures, and repairs no
clock. -/
theorem step_of_isBroken (hgate : ClockGate.Recovers heal) (h : s.clock.isBroken = true)
    (c : ClockedCommand ι) :
    heal (s.step c).2.gate = heal s.gate ∧ (s.step c).2.clock.isBroken = true := by
  cases c with
  | advance d =>
    rw [step, Clock.advance_of_isBroken h]
    exact ⟨rfl, h⟩
  | setOffset d =>
    rw [step, Clock.setOffset_of_isBroken h]
    exact ⟨rfl, h⟩
  | failNext => exact ⟨rfl, h⟩
  | call i =>
    obtain ⟨f, k, hread, hbroken⟩ := Clock.read_of_isBroken h
    obtain ⟨-, hheal, hclock⟩ := step_call_of_read_error hgate hread i
    exact ⟨hheal, hclock ▸ hbroken⟩

/-! ## Runs -/

/-- **A run does not see a failure in the past.** -/
theorem run_congr (hgate : ClockGate.Recovers heal) (h : s.Alike heal t)
    (cs : List (ClockedCommand ι)) :
    s.answers cs = t.answers cs ∧ (s.after cs).Alike heal (t.after cs) := by
  induction cs generalizing s t with
  | nil => exact ⟨rfl, h⟩
  | cons c cs ih =>
    obtain ⟨hanswer, hstep⟩ := step_congr hgate h c
    obtain ⟨hanswers, hafter⟩ := ih hstep
    rw [answers_cons, answers_cons, hanswer, hanswers]
    exact ⟨rfl, hafter⟩

/-- **A broken clock is the end of it**: the gate never changes again. -/
theorem gate_after_of_isBroken (hgate : ClockGate.Recovers heal) (h : s.clock.isBroken = true)
    (cs : List (ClockedCommand ι)) : heal (s.after cs).gate = heal s.gate := by
  induction cs generalizing s with
  | nil => rfl
  | cons c cs ih =>
    obtain ⟨hheal, hbroken⟩ := step_of_isBroken hgate h c
    rw [after_cons, ih hbroken, hheal]

/-- **A failure hits one call and leaves no trace.** It may have been asked for
some moves of the clock ago: the first call fails, and everything else is
answered and ends as if neither the failure nor that call had been. -/
theorem run_call_armed (hgate : ClockGate.Recovers heal) (h : s.clock.failsNext = true)
    {moves : List (ClockedCommand ι)} (hmoves : ∀ c ∈ moves, c.isMove = true) (i : ι)
    (cs : List (ClockedCommand ι)) :
    s.answers (moves ++ .call i :: cs)
        = s.disarm.answers moves ++ .fault .readFailed :: (s.disarm.after moves).answers cs
      ∧ (s.after (moves ++ .call i :: cs)).Alike heal ((s.disarm.after moves).after cs) := by
  -- a move takes the gate on, and the failure with it
  induction moves generalizing s with
  | nil =>
    obtain ⟨hanswer, hcall⟩ := step_call_of_read_error hgate (Clock.read_armed h) i
    obtain ⟨hanswers, hafter⟩ := run_congr hgate hcall cs
    rw [List.nil_append, answers_cons, hanswer, hanswers]
    exact ⟨rfl, hafter⟩
  | cons c moves ih =>
    obtain ⟨hc, hrest⟩ := List.forall_mem_cons.1 hmoves
    obtain ⟨hstep, hkeeps⟩ := step_move_disarm (s := s) hc
    obtain ⟨hanswers, hafter⟩ := ih (hkeeps.trans h) hrest
    rw [List.cons_append, answers_cons, after_cons, answers_cons, after_cons, hstep]
    exact ⟨by rw [hanswers, List.cons_append], hafter⟩

/-- **A gate that gets no reading stays as it is**, but for what `heal` takes away. -/
structure FailsCleanly (heal : γ → γ) (s : Clocked γ) : Prop where
  /-- A failure that was asked for ends one call and is used up. -/
  armed : s.clock.failsNext = true → ∀ i : ι,
    (s.step (.call i)).1 = .fault .readFailed ∧ (s.step (.call i)).2.Alike heal s.disarm
  /-- A broken clock ends every call. -/
  broken : s.clock.failsNext = false → s.clock.isBroken = true → ∀ i : ι,
    (s.step (.call i)).1 = .fault .broken ∧ (s.step (.call i)).2.Alike heal s
  /-- A clock is broken by a move that leads too far. -/
  breaks : ∀ c : ClockedCommand ι, c.isMove = true → (s.step c).1 = .fault .beyondRange →
    (s.step c).2 = { s with clock := { s.clock with isBroken := true } }
  /-- After a failure everything goes as if neither it nor the call had been. -/
  recovers : s.clock.failsNext = true → ∀ moves : List (ClockedCommand ι),
    (∀ c ∈ moves, c.isMove = true) → ∀ (i : ι) (cs : List (ClockedCommand ι)),
      s.answers (moves ++ .call i :: cs)
          = s.disarm.answers moves ++ .fault .readFailed :: (s.disarm.after moves).answers cs
        ∧ (s.after (moves ++ .call i :: cs)).Alike heal ((s.disarm.after moves).after cs)
  /-- With a broken clock the gate never changes again. -/
  stands : s.clock.isBroken = true → ∀ cs : List (ClockedCommand ι),
    heal (s.after cs).gate = heal s.gate

/-- A gate that recovers does, in every state. -/
theorem failsCleanly (hgate : ClockGate.Recovers heal) (s : Clocked γ) : s.FailsCleanly heal where
  armed h := step_call_of_read_error hgate (Clock.read_armed h)
  broken hf hb := step_call_of_read_error hgate (Clock.read_broken hf hb)
  breaks _ := step_beyondRange
  recovers h _ hmoves := run_call_armed hgate h hmoves
  stands := gate_after_of_isBroken hgate

end Clocked

end Herald
