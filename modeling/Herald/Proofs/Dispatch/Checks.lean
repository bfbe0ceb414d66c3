import Herald.Proofs.Dispatch.Runs
import Herald.Proofs.Dispatch.Sides
/-!
# The checks of a run

A check is a call that asked the gates and got an answer: a plain check, or a
filter result with a rule. `checks` lists those a run makes. What a step can
do to the gates is said once, in `gateStep`: it makes one check, or it fails in
one, or it prunes, or it leaves them as they were.
-/

namespace Herald

/-- A check that was made: of which domain, at which moment, and with which
answer. -/
structure Check where
  domain : String
  time : Moment
  answer : Admission
  deriving DecidableEq, Repr

/-- The check a command came to, at a moment and by its answer. One that its
clock cut short is none, and neither is a filter result without a rule. -/
def Check.of? (time : Moment) : Command → Answer → Option Check
  | .check domain, .admission a => some ⟨domain, time, a⟩
  | .handle m _, .matched (.rateLimited scope) => some ⟨m.host, time, .blocked scope⟩
  | .handle m _, .matched .dispatched => some ⟨m.host, time, .admitted⟩
  | _, _ => none

namespace Service

variable {s : Service}

/-- The checks a run makes, in order. -/
def checks (s : Service) : List Command → List Check
  | [] => []
  | c :: cs => (Check.of? s.clock.time c (s.step c).1).toList ++ (s.step c).2.checks cs

/-- What a step does to the gates, with the check it makes. -/
inductive GateStep (s : Service) (c : Command) (s' : Service) : Option Check → Prop
  /-- One check, at the moment the clock shows. -/
  | check {domain : String} {a : Admission} {d : Dispatcher}
      (went : Dispatcher.CheckAt s.dispatcher domain s.clock.time a d)
      (gates : s'.dispatcher.gates = d.gates) (clock : s'.clock = s.clock) :
      GateStep s c s' (some ⟨domain, s.clock.time, a⟩)
  /-- One prune, at the moment the clock shows. -/
  | prune (isPrune : c = .prune)
      (gates : s'.dispatcher.gates = (s.dispatcher.pruneAt s.clock.time).2.gates)
      (clock : s'.clock = s.clock) : GateStep s c s' none
  /-- A check that gets no reading: the lock of the global gate is poisoned. -/
  | failed (gates : s'.dispatcher.gates = s.dispatcher.poison.gates) : GateStep s c s' none
  /-- Nothing. -/
  | idle (gates : s'.dispatcher.gates = s.dispatcher.gates) : GateStep s c s' none

/-- A move of the clock touches no gate. -/
theorem dispatcher_move (s : Service) (r : Except ClockFault Unit × Clock) :
    (s.move r).2.dispatcher = s.dispatcher := by
  rcases r with ⟨_ | _, c⟩ <;> rfl

/-- A move of the clock is no check. -/
theorem check_of_move (s : Service) {c : Command} (r : Except ClockFault Unit × Clock)
    (now : Moment) : Check.of? now c (s.move r).1 = none := by
  rcases r with ⟨_ | _, _⟩ <;> cases c <;> rfl

/-- What a check of the service comes to: the clock gives a reading and the
check is made at it, or it gives none and the lock of the global gate is left
poisoned. -/
theorem check_eq (s : Service) (domain : String) :
    s.check domain =
      match s.clock.read with
      | (.ok now, c) => (.ok (s.dispatcher.checkAt domain now).1,
          { s with dispatcher := (s.dispatcher.checkAt domain now).2, clock := c })
      | (.error f, c) => (.error f, { s with dispatcher := s.dispatcher.poison, clock := c }) := by
  simp only [check, Dispatcher.check_eq]
  rcases s.clock.read with ⟨_ | _, _⟩ <;> rfl

/-- A prune of the service is made at the reading, or does not happen. -/
theorem step_prune_eq (s : Service) :
    s.step .prune =
      match s.clock.read with
      | (.ok now, c) => (.removed (s.dispatcher.domainGate.prune now).1,
          { s with dispatcher := (s.dispatcher.pruneAt now).2, clock := c }.report
            (s.dispatcher.pruneAt now).1.2)
      | (.error f, c) => (.fault f, { s with clock := c }) := by
  simp only [step, prune, Dispatcher.prune_eq]
  rcases s.clock.read with ⟨f | now, c⟩
  · rfl
  · simp

/-- The ways a filter result can go. -/
inductive HandleCase (s : Service) (m : RuleMatch) (time : Timestamp) : Answer → Service → Prop
  /-- It has no rule. -/
  | noRules (empty : m.rules = []) : HandleCase s m time (.matched .noRules) s
  /-- The check of its host gets no reading. -/
  | fault (f : ClockFault) (went : (s.check m.host).1 = .error f) :
      HandleCase s m time (.fault f) (s.check m.host).2
  /-- The check denies it. -/
  | rateLimited (scope : Scope) (went : (s.check m.host).1 = .ok (.blocked scope)) :
      HandleCase s m time (.matched (.rateLimited scope))
        ((s.check m.host).2.report [.rateLimited m.host scope])
  /-- The check admits it, and its first rule goes to the background. -/
  | dispatched (rule : String) (first : m.rules.head? = some rule)
      (went : (s.check m.host).1 = .ok .admitted) :
      HandleCase s m time (.matched .dispatched)
        (((s.check m.host).2.report [.sending m.host rule m.reason]).sendLater
          (noticeOf m rule time) none)

/-- **A filter result goes one of these ways.** -/
theorem handle_cases (s : Service) (m : RuleMatch) (time : Timestamp) :
    HandleCase s m time (s.handle m time).1 (s.handle m time).2 := by
  simp only [handle]
  rcases hrules : m.rules with _ | ⟨rule, rules⟩
  · exact .noRules hrules
  · have hfirst : m.rules.head? = some rule := by rw [hrules, List.head?_cons]
    rcases hcheck : s.check m.host with ⟨f | _ | scope, s'⟩ <;>
      obtain rfl : (s.check m.host).2 = s' := congrArg Prod.snd hcheck
    · exact .fault f (congrArg Prod.fst hcheck)
    · exact .dispatched rule hfirst (congrArg Prod.fst hcheck)
    · exact .rateLimited scope (congrArg Prod.fst hcheck)

/-- **What a step can do to the gates**: one check, one that fails, one prune, or nothing. -/
theorem gateStep (s : Service) (c : Command) :
    GateStep s c (s.step c).2 (Check.of? s.clock.time c (s.step c).1) := by
  cases c with
  | advance d =>
    rw [step, check_of_move]
    exact .idle (by rw [dispatcher_move])
  | setOffset d =>
    rw [step, check_of_move]
    exact .idle (by rw [dispatcher_move])
  | failNext => exact .idle rfl
  | check domain =>
    simp only [step, check_eq]
    rcases hr : s.clock.read with ⟨f | now, c⟩
    · exact .failed rfl
    · obtain ⟨rfl, rfl, -⟩ := Clock.read_ok hr
      exact .check (s.dispatcher.checkAt_cases domain s.clock.time) rfl rfl
  | handle m time =>
    simp only [step, handle, check_eq]
    rcases m.rules with _ | ⟨rule, rules⟩
    · exact .idle rfl
    · -- with a rule, the check of the host comes first and the send behind it
      rcases hr : s.clock.read with ⟨f | now, c⟩
      · exact .failed rfl
      · obtain ⟨rfl, rfl, -⟩ := Clock.read_ok hr
        have hcheck := s.dispatcher.checkAt_cases m.host s.clock.time
        dsimp only
        generalize s.dispatcher.checkAt m.host s.clock.time = r at hcheck ⊢
        obtain ⟨_ | scope, d⟩ := r
        · exact .check hcheck (congrArg Prod.fst (gatehouse_sendLater _ _ _))
            (congrArg Prod.snd (gatehouse_sendLater _ _ _))
        · exact .check hcheck rfl rfl
  | prune =>
    simp only [step, prune, Dispatcher.prune_eq]
    rcases hr : s.clock.read with ⟨f | now, c⟩
    · exact .idle rfl
    · obtain ⟨rfl, rfl, -⟩ := Clock.read_ok hr
      exact .prune rfl rfl rfl
  | send n outcome => exact .idle (congrArg Prod.fst (gatehouse_sendNow s n outcome))
  | sendLater n token => exact .idle (congrArg Prod.fst (gatehouse_sendLater s n token))
  | cancel token => exact .idle rfl
  | shutDown => exact .idle (congrArg Prod.fst (gatehouse_shutDown s))
  | turn number => exact .idle (congrArg Prod.fst (gatehouse_turn s number))
  | deliver number outcome => exact .idle (congrArg Prod.fst (gatehouse_deliver s number outcome))

end Service

end Herald
