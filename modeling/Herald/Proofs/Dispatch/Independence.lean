import Herald.Proofs.Dispatch.Checks
/-!
# Sends never influence checks

What a run does at the gates can be read off its admission part alone: the
clock moves, the checks and the prunes, with every filter result that has a
rule cut down to the check of its host. Two facts carry this over to runs. A
command without an admission part leaves the gates and the clock alone
(`gatehouse_step_of_none`), and one with such a part does to them and answers
just what the part does, in any service with the same gates and clock
(`step_admissionPart`).
-/

namespace Herald

/-- **The part of a command that gates and clock can see.** A filter result is
the check of its host if it has a rule; sends, tokens, turns, outcomes and the
shutdown have no such part. -/
def Command.admissionPart : Command → Option Command
  | .advance d => some (.advance d)
  | .setOffset d => some (.setOffset d)
  | .failNext => some .failNext
  | .check domain => some (.check domain)
  | .handle m _ => if m.rules.isEmpty then none else some (.check m.host)
  | .prune => some .prune
  | _ => none

/-- What an answer says about admission: that of a filter result is read as
the answer to a check. -/
def Answer.admissionPart : Answer → Answer
  | .matched (.rateLimited scope) => .admission (.blocked scope)
  | .matched .dispatched => .admission .admitted
  | a => a

namespace Service

variable {s t : Service} {c c' : Command}

/-- What a run answers to the commands that have an admission part. -/
def admissionAnswers (s : Service) : List Command → List Answer
  | [] => []
  | c :: cs =>
    (c.admissionPart.map fun _ => (s.step c).1.admissionPart).toList
      ++ (s.step c).2.admissionAnswers cs

/-- The same gates and clock, said of each. -/
theorem gatehouse_eq_iff :
    s.gatehouse = t.gatehouse ↔ s.dispatcher.gates = t.dispatcher.gates ∧ s.clock = t.clock :=
  Prod.ext_iff

/-- **A command without an admission part** leaves the gates and the clock
alone. -/
theorem gatehouse_step_of_none (h : c.admissionPart = none) :
    (s.step c).2.gatehouse = s.gatehouse := by
  cases c with
  | send n outcome => exact s.gatehouse_sendNow n outcome
  | sendLater n token => exact s.gatehouse_sendLater n token
  | cancel token => rfl
  | shutDown => exact s.gatehouse_shutDown
  | turn number => exact s.gatehouse_turn number
  | deliver number outcome => exact s.gatehouse_deliver number outcome
  | handle m time =>
    have hrules : m.rules = [] := by
      by_contra hne
      simp [Command.admissionPart, hne] at h
    simp [step, handle, hrules]
  | advance d => cases h
  | setOffset d => cases h
  | failNext => cases h
  | check domain => cases h
  | prune => cases h

/-! ## Two services with the same gates and clock -/

/-- A move of the clock goes the same in both. -/
theorem move_congr (h : s.gatehouse = t.gatehouse) (r : Except ClockFault Unit × Clock) :
    (s.move r).1.admissionPart = (t.move r).1
      ∧ (s.move r).2.gatehouse = (t.move r).2.gatehouse := by
  rw [gatehouse_eq_iff] at h
  rcases r with ⟨_ | _, k⟩ <;> exact ⟨rfl, gatehouse_eq_iff.2 ⟨h.1, rfl⟩⟩

/-- A check is answered the same in both. -/
theorem check_congr (h : s.gatehouse = t.gatehouse) (domain : String) :
    (s.check domain).1 = (t.check domain).1
      ∧ (s.check domain).2.gatehouse = (t.check domain).2.gatehouse := by
  obtain ⟨hg, hk⟩ := gatehouse_eq_iff.1 h
  obtain ⟨ha, hd, hc⟩ := Dispatcher.check_congr hg domain s.clock
  rw [hk] at ha hd hc
  simp only [check, hk]
  exact ⟨ha, gatehouse_eq_iff.2 ⟨hd, hc⟩⟩

/-- A prune is answered the same in both. -/
theorem prune_congr (h : s.gatehouse = t.gatehouse) :
    s.prune.1 = t.prune.1 ∧ s.prune.2.gatehouse = t.prune.2.gatehouse := by
  obtain ⟨hg, hk⟩ := gatehouse_eq_iff.1 h
  obtain ⟨ha, hd, hc⟩ := Dispatcher.prune_congr hg s.clock
  rw [hk] at ha hd hc
  simp only [prune, hk]
  rcases hs : s.dispatcher.prune t.clock with ⟨r, d, k⟩
  rcases ht : t.dispatcher.prune t.clock with ⟨r', d', k'⟩
  rw [hs, ht] at ha hd hc
  obtain rfl : r = r' := ha
  rcases r with f | ⟨n, es⟩ <;> exact ⟨rfl, gatehouse_eq_iff.2 ⟨hd, hc⟩⟩

/-- **A command with an admission part** does what the part does. -/
theorem step_admissionPart (h : s.gatehouse = t.gatehouse) (hc : c.admissionPart = some c') :
    (s.step c).1.admissionPart = (t.step c').1
      ∧ (s.step c).2.gatehouse = (t.step c').2.gatehouse := by
  have hclock : s.clock = t.clock := (gatehouse_eq_iff.1 h).2
  cases c with
  | advance d =>
    obtain rfl := Option.some.inj hc
    rw [step, step, hclock]
    exact move_congr h _
  | setOffset d =>
    obtain rfl := Option.some.inj hc
    rw [step, step, hclock]
    exact move_congr h _
  | failNext =>
    obtain rfl := Option.some.inj hc
    exact ⟨rfl, gatehouse_eq_iff.2 ⟨(gatehouse_eq_iff.1 h).1, congrArg Clock.failNext hclock⟩⟩
  | check domain =>
    obtain rfl := Option.some.inj hc
    obtain ⟨ha, hg⟩ := check_congr h domain
    simp only [step]
    rcases hs : s.check domain with ⟨r, s'⟩
    rcases ht : t.check domain with ⟨r', t'⟩
    rw [hs, ht] at ha hg
    obtain rfl : r = r' := ha
    cases r <;> exact ⟨rfl, hg⟩
  | handle m time =>
    obtain ⟨ha, hg⟩ := check_congr h m.host
    rcases hrules : m.rules with _ | ⟨rule, rules⟩
    · simp [Command.admissionPart, hrules] at hc
    · obtain rfl : Command.check m.host = c' := by simpa [Command.admissionPart, hrules] using hc
      simp only [step, handle, hrules]
      rcases hs : s.check m.host with ⟨r, s'⟩
      rcases ht : t.check m.host with ⟨r', t'⟩
      rw [hs, ht] at ha hg
      obtain rfl : r = r' := ha
      rcases r with f | _ | scope
      · exact ⟨rfl, hg⟩
      · -- an admitted filter result goes on to a send, which the gates do not see
        exact ⟨rfl, (gatehouse_sendLater _ _ _).trans hg⟩
      · exact ⟨rfl, hg⟩
  | prune =>
    obtain rfl := Option.some.inj hc
    obtain ⟨ha, hg⟩ := prune_congr h
    simp only [step]
    rcases hs : s.prune with ⟨r, s'⟩
    rcases ht : t.prune with ⟨r', t'⟩
    rw [hs, ht] at ha hg
    obtain rfl : r = r' := ha
    cases r <;> exact ⟨rfl, hg⟩
  | send n outcome => cases hc
  | sendLater n token => cases hc
  | cancel token => cases hc
  | shutDown => cases hc
  | turn number => cases hc
  | deliver number outcome => cases hc

/-- **A run does at the gates what its admission part does**, from any two
services with the same gates and clock. -/
theorem run_admissionPart (h : s.gatehouse = t.gatehouse) (cs : List Command) :
    (s.after cs).gatehouse = (t.after (cs.filterMap Command.admissionPart)).gatehouse
      ∧ s.admissionAnswers cs = t.answers (cs.filterMap Command.admissionPart) := by
  induction cs generalizing s t with
  | nil => exact ⟨h, rfl⟩
  | cons c cs ih =>
    rw [after_cons, admissionAnswers]
    cases hc : c.admissionPart with
    | none =>
      -- only the full run makes a step, and the gates do not see it
      rw [List.filterMap_cons_none hc]
      simpa using ih ((gatehouse_step_of_none hc).trans h)
    | some c' =>
      obtain ⟨hanswer, hgate⟩ := step_admissionPart h hc
      rw [List.filterMap_cons_some hc, after_cons, answers_cons]
      simpa [hanswer] using ih hgate

end Service

/-- **Sends never influence checks.** Leave out of a run every send, token,
turn, outcome and shutdown and every filter result without a rule, and make of
every other filter result the check of its host: what is left answers as it
did in the run, and ends with the same gates, the same admission counters and
the same clock. And a service that is shut down admits exactly as it would if
it were not. -/
theorem sends_never_influence_checks (s : Service) (cs : List Command) :
    let admissions := cs.filterMap Command.admissionPart
    (s.after admissions).gatehouse = (s.after cs).gatehouse ∧
      s.answers admissions = s.admissionAnswers cs ∧
      (s.shutDown.after cs).gatehouse = (s.after cs).gatehouse ∧
      s.shutDown.admissionAnswers cs = s.admissionAnswers cs := by
  intro admissions
  obtain ⟨hgate, hanswers⟩ := Service.run_admissionPart (s := s) rfl cs
  obtain ⟨hgate', hanswers'⟩ := Service.run_admissionPart s.gatehouse_shutDown cs
  exact ⟨hgate.symm, hanswers.symm, hgate'.trans hgate.symm, hanswers'.trans hanswers.symm⟩

end Herald
