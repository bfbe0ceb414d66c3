import Herald.Dispatch.Service
/-!
# The two sides of a dispatcher

Checks and prunes act on the gates and their counters; sends act on the
settings they are made with, the lifecycle and the counters of their ends. No
field belongs to both sides, and every operation keeps to its own: that is
`outlet_check` and `outlet_prune` on one side, and on the other the lemmas
`gates_…` of the dispatcher and `gatehouse_…` of the service. A check is
determined by the gates alone (`check_congr`), and so is a prune
(`prune_congr`).
-/

namespace Herald

/-- What checks and prunes act on. -/
structure Gates where
  globalGate : GlobalGate
  domainGate : DomainGate
  admitted : UInt64
  blockedByGlobal : UInt64
  blockedByDomain : UInt64
  windowsPruned : UInt64

/-- What sends act on. -/
structure Outlet where
  settings : Settings
  product : String
  endpoint : String
  sent : UInt64
  failed : UInt64
  cancelled : UInt64
  isShutDown : Bool

namespace Dispatcher

/-- The side of the checks. -/
def gates (d : Dispatcher) : Gates where
  globalGate := d.globalGate
  domainGate := d.domainGate
  admitted := d.counters.admitted
  blockedByGlobal := d.counters.blockedByGlobal
  blockedByDomain := d.counters.blockedByDomain
  windowsPruned := d.counters.windowsPruned

/-- The side of the sends. -/
def outlet (d : Dispatcher) : Outlet where
  settings := d.settings
  product := d.product
  endpoint := d.endpoint
  sent := d.counters.sent
  failed := d.counters.failed
  cancelled := d.counters.cancelled
  isShutDown := d.isShutDown

variable {d e : Dispatcher} {c : Clock}

/-- The same gates are the same global gate. -/
theorem globalGate_of_gates (h : d.gates = e.gates) : d.globalGate = e.globalGate :=
  congrArg Gates.globalGate h

/-- The same gates are the same gate of the domains. -/
theorem domainGate_of_gates (h : d.gates = e.gates) : d.domainGate = e.domainGate :=
  congrArg Gates.domainGate h

/-! ## The two steps of a check, gate by gate -/

@[simp] theorem gates_poison (d : Dispatcher) :
    d.poison.gates = { d.gates with globalGate := d.globalGate.poison } := rfl

@[simp] theorem globalGate_noteGlobal (d : Dispatcher) (passed : Bool) (g : GlobalGate) :
    (d.noteGlobal passed g).globalGate = g := by
  cases passed <;> rfl

@[simp] theorem domainGate_noteGlobal (d : Dispatcher) (passed : Bool) (g : GlobalGate) :
    (d.noteGlobal passed g).domainGate = d.domainGate := by
  cases passed <;> rfl

@[simp] theorem isAdmitted_noteDomain (d : Dispatcher) (passed : Bool) (g : DomainGate) :
    (d.noteDomain passed g).1.isAdmitted = passed := by
  cases passed <;> rfl

@[simp] theorem globalGate_noteDomain (d : Dispatcher) (passed : Bool) (g : DomainGate) :
    (d.noteDomain passed g).2.globalGate = d.globalGate := by
  cases passed <;> rfl

@[simp] theorem domainGate_noteDomain (d : Dispatcher) (passed : Bool) (g : DomainGate) :
    (d.noteDomain passed g).2.domainGate = g := by
  cases passed <;> rfl

@[simp] theorem passGlobal_fst (d : Dispatcher) (now : Moment) :
    (d.passGlobal now).1 = (d.globalGate.check now).1 := rfl

@[simp] theorem globalGate_passGlobal (d : Dispatcher) (now : Moment) :
    (d.passGlobal now).2.globalGate = (d.globalGate.check now).2 :=
  d.globalGate_noteGlobal _ _

@[simp] theorem domainGate_passGlobal (d : Dispatcher) (now : Moment) :
    (d.passGlobal now).2.domainGate = d.domainGate :=
  d.domainGate_noteGlobal _ _

@[simp] theorem passDomain_isAdmitted (d : Dispatcher) (x : String) (now : Moment) :
    (d.passDomain x now).1.isAdmitted = (d.domainGate.check x now).1 :=
  d.isAdmitted_noteDomain _ _

@[simp] theorem globalGate_passDomain (d : Dispatcher) (x : String) (now : Moment) :
    (d.passDomain x now).2.globalGate = d.globalGate :=
  d.globalGate_noteDomain _ _

@[simp] theorem domainGate_passDomain (d : Dispatcher) (x : String) (now : Moment) :
    (d.passDomain x now).2.domainGate = (d.domainGate.check x now).2 :=
  d.domainGate_noteDomain _ _

/-! ## Steps by the clock are steps at a moment -/

/-- **The first step of a check** is made at the reading it gets. Without one it leaves
the lock of the global gate poisoned. -/
theorem askGlobal_eq (d : Dispatcher) (c : Clock) :
    d.askGlobal c =
      match c.read with
      | (.ok now, c') => (.ok (d.passGlobal now).1, (d.passGlobal now).2, c')
      | (.error f, c') => (.error f, d.poison, c') := by
  rcases hr : c.read with ⟨f | now, c'⟩
  · simp only [askGlobal, GlobalGate.checkBy_of_error hr, poison]
  · simp only [askGlobal, GlobalGate.checkBy_of_ok hr, passGlobal]

/-- **The second step** is made at its reading, or does nothing. -/
theorem askDomain_eq (d : Dispatcher) (domain : String) (c : Clock) :
    d.askDomain domain c =
      match c.read with
      | (.ok now, c') => (.ok (d.passDomain domain now).1, (d.passDomain domain now).2, c')
      | (.error f, c') => (.error f, d, c') := by
  rcases hr : c.read with ⟨f | now, c'⟩
  · simp only [askDomain, DomainGate.checkBy_of_error hr]
  · simp only [askDomain, DomainGate.checkBy_of_ok hr, passDomain]

/-- **A prune** is made at its reading, or does nothing. -/
theorem prune_eq (d : Dispatcher) (c : Clock) :
    d.prune c =
      match c.read with
      | (.ok now, c') => (.ok (d.pruneAt now).1, (d.pruneAt now).2, c')
      | (.error f, c') => (.error f, d, c') := by
  rcases hr : c.read with ⟨f | now, c'⟩
  · simp only [prune, DomainGate.pruneBy_of_error hr]
  · simp only [prune, DomainGate.pruneBy_of_ok hr, pruneAt]

/-! ## A check is a check at one moment -/

/-- Both steps of a check at one moment. -/
def checkAt (d : Dispatcher) (domain : String) (now : Moment) : Admission × Dispatcher :=
  match d.passGlobal now with
  | (false, d') => (.blocked .global, d')
  | (true, d') => d'.passDomain domain now

/-- **A check needs one good reading.** A clock that has given one reading gives the
same one again, so a check is both steps at that moment. A clock that gives none ends
it at its first step. -/
theorem check_eq (d : Dispatcher) (domain : String) (c : Clock) :
    d.check domain c =
      match c.read with
      | (.ok now, c') => (.ok (d.checkAt domain now).1, (d.checkAt domain now).2, c')
      | (.error f, c') => (.error f, d.poison, c') := by
  simp only [check, askGlobal_eq]
  rcases hr : c.read with ⟨f | now, c'⟩
  · rfl
  · obtain ⟨rfl, rfl, -⟩ := Clock.read_ok hr
    rcases hp : d.passGlobal c'.time with ⟨_ | _, d'⟩
    · simp only [checkAt, hp]
    · simp only [checkAt, hp, askDomain_eq, hr]

/-- The three ways a check at one moment can go. -/
inductive CheckAt (d : Dispatcher) (domain : String) (now : Moment) :
    Admission → Dispatcher → Prop
  /-- The global gate is closed: nothing but its counter moves. -/
  | blockedByGlobal (closed : (d.globalGate.check now).1 = false) :
      CheckAt d domain now (.blocked .global)
        { d with
          counters := { d.counters with blockedByGlobal := d.counters.blockedByGlobal + 1 } }
  /-- The gate of the domain is closed: the global admission stands. -/
  | blockedByDomain (passed : (d.globalGate.check now).1 = true)
      (closed : (d.domainGate.check domain now).1 = false) :
      CheckAt d domain now (.blocked .domain)
        { d with
          globalGate := d.globalGate.setWindow (some (.openedAt now))
          counters := { d.counters with blockedByDomain := d.counters.blockedByDomain + 1 } }
  /-- Both gates are open, and both windows move. -/
  | admitted (passed : (d.globalGate.check now).1 = true)
      (admitted : (d.domainGate.check domain now).1 = true) :
      CheckAt d domain now .admitted
        { d with
          globalGate := d.globalGate.setWindow (some (.openedAt now))
          domainGate := (d.domainGate.check domain now).2
          counters := { d.counters with admitted := d.counters.admitted + 1 } }

/-- **A check goes one of the three ways.** -/
theorem checkAt_cases (d : Dispatcher) (domain : String) (now : Moment) :
    CheckAt d domain now (d.checkAt domain now).1 (d.checkAt domain now).2 := by
  by_cases hg : (d.globalGate.check now).1 = true
  · have hw := GlobalGate.check_admitted hg
    by_cases hd : (d.domainGate.check domain now).1 = true
    · have h := CheckAt.admitted hg hd
      simpa [checkAt, passGlobal, passDomain, noteGlobal, noteDomain, hg, hd, hw] using h
    · have hd' : (d.domainGate.check domain now).1 = false := by simpa using hd
      have h := CheckAt.blockedByDomain hg hd'
      simpa [checkAt, passGlobal, passDomain, noteGlobal, noteDomain, hg, hd', hw,
        DomainGate.check_denied hd'] using h
  · have hg' : (d.globalGate.check now).1 = false := by simpa using hg
    have h : CheckAt d domain now _ _ := .blockedByGlobal hg'
    simpa [checkAt, passGlobal, noteGlobal, hg', GlobalGate.check_denied hg'] using h

/-! ## Each side on its own -/

/-- An answer of the global gate is noted among the gates. -/
theorem noteGlobal_congr (h : d.gates = e.gates) (passed : Bool) (g : GlobalGate) :
    (d.noteGlobal passed g).gates = (e.noteGlobal passed g).gates := by
  simp only [gates, Gates.mk.injEq] at h
  cases passed <;> simp [noteGlobal, gates, h]

/-- An answer of the gate of a domain is noted among the gates. -/
theorem noteDomain_congr (h : d.gates = e.gates) (passed : Bool) (g : DomainGate) :
    (d.noteDomain passed g).1 = (e.noteDomain passed g).1
      ∧ (d.noteDomain passed g).2.gates = (e.noteDomain passed g).2.gates := by
  simp only [gates, Gates.mk.injEq] at h
  cases passed <;> simp [noteDomain, gates, h]

/-- **A check is determined by the gates**, in its answer and in what it makes
of them. -/
theorem checkAt_congr (h : d.gates = e.gates) (domain : String) (now : Moment) :
    (d.checkAt domain now).1 = (e.checkAt domain now).1
      ∧ (d.checkAt domain now).2.gates = (e.checkAt domain now).2.gates := by
  have hg := globalGate_of_gates h
  have hnoted := noteGlobal_congr h (d.globalGate.check now).1 (d.globalGate.check now).2
  by_cases hpass : (d.globalGate.check now).1 = true
  · simp only [checkAt, passGlobal, passDomain, ← hg, hpass, domainGate_noteGlobal,
      domainGate_of_gates h] at hnoted ⊢
    exact noteDomain_congr hnoted _ _
  · simp only [checkAt, passGlobal, ← hg, hpass] at hnoted ⊢
    exact ⟨trivial, hnoted⟩

/-- **A check goes by no lock**: on a notifier that a failed check has left poisoned it
does what it does on a sound one. -/
theorem checkAt_heal (d : Dispatcher) (domain : String) (now : Moment) :
    d.heal.checkAt domain now = ((d.checkAt domain now).1, (d.checkAt domain now).2.heal) := by
  by_cases hpass : (d.globalGate.check now).1 = true
  · by_cases hadmit : (d.domainGate.check domain now).1 = true <;>
      simp [checkAt, passGlobal, passDomain, noteGlobal, noteDomain, heal, GlobalGate.check_heal,
        hpass, hadmit]
  · simp [checkAt, passGlobal, noteGlobal, heal, GlobalGate.check_heal, hpass]

/-- **A prune goes by no lock**, whether a failed check has left it poisoned or not. -/
theorem pruneAt_heal (d : Dispatcher) (now : Moment) :
    d.heal.pruneAt now = ((d.pruneAt now).1, (d.pruneAt now).2.heal) := by
  by_cases hr : (d.domainGate.prune now).1 = 0 <;> simp [pruneAt, notePrune, heal, hr]

/-- Gates that are the same are the same as if no check had failed. -/
theorem gates_heal_congr (h : d.gates = e.gates) : d.heal.gates = e.heal.gates := by
  have hheal : ∀ d : Dispatcher,
      d.heal.gates = { d.gates with globalGate := d.gates.globalGate.heal } := fun _ => rfl
  rw [hheal, hheal, h]

/-- A check by the clock is determined by the gates. -/
theorem check_congr (h : d.gates = e.gates) (domain : String) (c : Clock) :
    (d.check domain c).1 = (e.check domain c).1
      ∧ (d.check domain c).2.1.gates = (e.check domain c).2.1.gates
      ∧ (d.check domain c).2.2 = (e.check domain c).2.2 := by
  simp only [check_eq]
  rcases c.read with ⟨f | now, c'⟩
  · refine ⟨rfl, ?_, rfl⟩
    rw [gates_poison, gates_poison, h, globalGate_of_gates h]
  · obtain ⟨ha, hs⟩ := checkAt_congr h domain now
    exact ⟨congrArg Except.ok ha, hs, rfl⟩

/-- What a prune makes of a dispatcher, whether it removes windows or none. -/
theorem notePrune_snd (d : Dispatcher) (removed : Nat) (g : DomainGate) :
    (d.notePrune removed g).2 =
      { d with
        domainGate := g
        counters := { d.counters with
          windowsPruned := d.counters.windowsPruned + .ofNat removed } } := by
  simp only [notePrune]
  split
  · next h => simp [h]
  · rfl

/-- It answers with the number of windows removed. -/
theorem notePrune_count (d : Dispatcher) (removed : Nat) (g : DomainGate) :
    (d.notePrune removed g).1.1 = removed := by
  simp only [notePrune]
  split
  · next h => exact h.symm
  · rfl

theorem pruneAt_snd (d : Dispatcher) (now : Moment) :
    (d.pruneAt now).2 =
      { d with
        domainGate := (d.domainGate.prune now).2
        counters := { d.counters with
          windowsPruned := d.counters.windowsPruned + .ofNat (d.domainGate.prune now).1 } } :=
  d.notePrune_snd _ _

/-- A prune leaves the global gate alone. -/
@[simp] theorem globalGate_pruneAt (d : Dispatcher) (now : Moment) :
    (d.pruneAt now).2.globalGate = d.globalGate := by
  rw [pruneAt_snd]

/-- Of the domains' gate it makes what a prune of that gate makes of it. -/
@[simp] theorem domainGate_pruneAt (d : Dispatcher) (now : Moment) :
    (d.pruneAt now).2.domainGate = (d.domainGate.prune now).2 := by
  rw [pruneAt_snd]

/-- It answers with the number that the gate's prune answers with. -/
@[simp] theorem fst_pruneAt (d : Dispatcher) (now : Moment) :
    (d.pruneAt now).1.1 = (d.domainGate.prune now).1 :=
  d.notePrune_count _ _

/-- **A prune at a moment is determined by the gates**, in what it reports as well. -/
theorem pruneAt_congr (h : d.gates = e.gates) (now : Moment) :
    (d.pruneAt now).1 = (e.pruneAt now).1 ∧ (d.pruneAt now).2.gates = (e.pruneAt now).2.gates := by
  refine ⟨by simp only [pruneAt, notePrune, domainGate_of_gates h, apply_ite Prod.fst], ?_⟩
  simp only [gates, Gates.mk.injEq] at h
  simp [pruneAt_snd, gates, h]

/-- A prune by the clock is determined by the gates. -/
theorem prune_congr (h : d.gates = e.gates) (c : Clock) :
    (d.prune c).1 = (e.prune c).1 ∧ (d.prune c).2.1.gates = (e.prune c).2.1.gates
      ∧ (d.prune c).2.2 = (e.prune c).2.2 := by
  simp only [prune_eq]
  rcases c.read with ⟨f | now, c'⟩
  · exact ⟨rfl, h, rfl⟩
  · obtain ⟨ha, hs⟩ := pruneAt_congr h now
    exact ⟨congrArg Except.ok ha, hs, rfl⟩

/-- However a check goes, it leaves the side of the sends alone. -/
theorem CheckAt.outlet_eq {domain : String} {now : Moment} {a : Admission}
    (h : CheckAt d domain now a e) : e.outlet = d.outlet := by
  cases h <;> rfl

/-- A check by the clock leaves the side of the sends alone. -/
@[simp] theorem outlet_check (d : Dispatcher) (domain : String) (c : Clock) :
    (d.check domain c).2.1.outlet = d.outlet := by
  rw [check_eq]
  rcases c.read with ⟨f | now, c'⟩
  · rfl
  · exact (checkAt_cases d domain now).outlet_eq

/-- A prune leaves the side of the sends alone. -/
@[simp] theorem outlet_prune (d : Dispatcher) (c : Clock) :
    (d.prune c).2.1.outlet = d.outlet := by
  rw [prune_eq]
  rcases c.read with ⟨f | now, c'⟩
  · rfl
  · simp only [pruneAt_snd, outlet]

/-- The end of a send leaves the gates alone. -/
@[simp] theorem gates_concludeSend (d : Dispatcher) (n : Notice) (r : Except SendError Unit) :
    (d.concludeSend n r).2.gates = d.gates := by
  cases r <;> rfl

/-- A send that is given up leaves the gates alone. -/
@[simp] theorem gates_countCancelled (d : Dispatcher) : d.countCancelled.gates = d.gates := rfl

/-- The shutdown leaves the gates alone. -/
@[simp] theorem gates_shutDown (d : Dispatcher) : d.shutDown.2.gates = d.gates := by
  simp only [shutDown]
  split <;> rfl

end Dispatcher

namespace Service

variable {s : Service}

/-- What checks and prunes can see of a service: the gates and the clock. -/
def gatehouse (s : Service) : Gates × Clock := (s.dispatcher.gates, s.clock)

/-- A move of the clock changes the clock alone. -/
@[simp] theorem move_snd (s : Service) (r : Except ClockFault Unit × Clock) :
    (s.move r).2 = { s with clock := r.2 } := by
  rcases r with ⟨_ | _, _⟩ <;> rfl

/-- The answer of a check is not part of what it leaves behind. -/
theorem step_check_snd (s : Service) (domain : String) :
    (s.step (.check domain)).2 = (s.check domain).2 := by
  simp only [step]
  split <;> next h => rw [h]

/-- The answer of a prune is not part of what it leaves behind. -/
theorem step_prune_snd (s : Service) : (s.step .prune).2 = s.prune.2 := by
  simp only [step]
  split <;> next h => rw [h]

/-! ## What sends leave alone -/

@[simp] theorem gatehouse_report (s : Service) (es : List LogEvent) :
    (s.report es).gatehouse = s.gatehouse := rfl

/-- Handing a notice over touches no gate. -/
@[simp] theorem gatehouse_sendLater (s : Service) (n : Notice) (token : Option String) :
    (s.sendLater n token).gatehouse = s.gatehouse := by
  simp only [sendLater]
  split <;> rfl

/-- A send that is waited for touches no gate, whatever comes of it. -/
@[simp] theorem gatehouse_sendNow (s : Service) (n : Notice) (outcome : Outcome) :
    (s.sendNow n outcome).2.gatehouse = s.gatehouse := by
  simp only [sendNow]
  split <;> simp [gatehouse, report]

/-- The shutdown of a service touches no gate. -/
@[simp] theorem gatehouse_shutDown (s : Service) : s.shutDown.gatehouse = s.gatehouse := by
  simp [shutDown, gatehouse, report]

/-- A turn of a background send touches no gate, whether it posts, ends or is given up. -/
@[simp] theorem gatehouse_turn (s : Service) (number : Nat) :
    (s.turn number).gatehouse = s.gatehouse := by
  simp only [turn]
  split
  · rfl
  · split
    · simp [giveUp, gatehouse, report]
    · split <;> simp [finish, gatehouse, report]

/-- An outcome that comes in touches no gate. -/
@[simp] theorem gatehouse_deliver (s : Service) (number : Nat) (outcome : Outcome) :
    (s.deliver number outcome).gatehouse = s.gatehouse := by
  simp only [deliver]
  split
  · split <;> rfl
  · rfl

end Service

end Herald
