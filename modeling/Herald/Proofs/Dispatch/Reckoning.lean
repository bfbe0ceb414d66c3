import Herald.Proofs.Dispatch.Checks
import Herald.Proofs.Rate.Latest
/-!
# Counters and runs

The counters of the gates are moved here and there: by a check in three places, by
a prune in another, and not at all by a call that gets no reading. What they come
to can be read off the run from outside, by adding up over its steps (`total`):
the checks by their answers, the times the global window was set, the windows that
prunes have removed and those that admissions have made. A step adds to each
counter what it amounts to, and so a run does (`counter_after`).
-/

namespace Herald

/-- The counter of an answer. -/
def Counters.answered (n : Counters) : Admission → UInt64
  | .admitted => n.admitted
  | .blocked .global => n.blockedByGlobal
  | .blocked .domain => n.blockedByDomain

/-- Whether a command asks for a check. -/
def Command.asks : Command → Bool
  | .check _ => true
  | .handle m _ => !m.rules.isEmpty
  | _ => false

/-- Whether an answer is the fault of a clock. -/
def Answer.isFault : Answer → Bool
  | .fault _ => true
  | _ => false

/-- How many windows an answer says were removed. -/
def Answer.removals : Answer → Nat
  | .removed n => n
  | _ => 0

/-- A check that passes moves the window, since a spacing has a length. -/
theorem GlobalGate.window_ne_of_passed {g : GlobalGate} {now : Moment}
    (h : (g.check now).1 = true) : some (.openedAt now) ≠ g.window := by
  intro heq
  have hopen := check_admitted_iff.1 h _ heq.symm
  have hpos := g.spacing_pos
  have hnow : (RateWindow.openedAt now).lastAdmitted = now := rfl
  rw [RateWindow.isOpen_iff, hnow] at hopen
  omega

namespace Service

variable {s : Service} {c : Command}

/-! ## What a step amounts to -/

/-- The check a step makes. -/
def check? (s : Service) (c : Command) : Option Check := Check.of? s.clock.time c (s.step c).1

/-- A check that was asked for and has not failed. -/
def completes (s : Service) (c : Command) : Nat :=
  (c.asks && !(s.step c).1.isFault).toNat

/-- A check with an answer. -/
def answersAs (a : Admission) (s : Service) (c : Command) : Nat :=
  (s.check? c).toList.countP fun x => x.answer = a

/-- The global window is another one than before. -/
def setsWindow (s : Service) (c : Command) : Nat :=
  if (s.step c).2.dispatcher.globalGate.window ≠ s.dispatcher.globalGate.window then 1 else 0

/-- An admission that finds no window of its domain. -/
def opensWindow (s : Service) (c : Command) : Nat :=
  (s.check? c).toList.countP fun x =>
    x.answer = .admitted ∧ (s.dispatcher.domainGate.window x.domain).isNone

/-- The windows a prune says it has removed. -/
def removesWindows (s : Service) (c : Command) : Nat := (s.step c).1.removals

/-- **What a run comes to**, step by step. -/
def total (f : Service → Command → Nat) (s : Service) : List Command → Nat
  | [] => 0
  | c :: cs => f s c + (s.step c).2.total f cs

/-! ## Steps -/

/-- A check is made where one was asked for and has not failed. -/
theorem completes_eq (s : Service) (c : Command) :
    s.completes c = (s.check? c).toList.length := by
  unfold completes check?
  cases c with
  | advance d => rw [step, check_of_move]; rfl
  | setOffset d => rw [step, check_of_move]; rfl
  | check domain => rw [step]; rcases s.check domain with ⟨_ | _, _⟩ <;> rfl
  | handle m time =>
    rw [step, handle]
    rcases hrules : m.rules with _ | ⟨rule, rules⟩
    · simp [Command.asks, hrules, Check.of?]
    · -- with a rule it is the check of its host
      have hasks : (Command.handle m time).asks = true := by simp [Command.asks, hrules]
      rw [hasks]
      rcases s.check m.host with ⟨_ | _ | _, _⟩ <;> rfl
  | _ => rfl

/-- Only a prune removes windows. -/
theorem removesWindows_of_ne_prune (h : c ≠ .prune) : s.removesWindows c = 0 := by
  unfold removesWindows
  cases c with
  | advance d => rw [step]; rcases s.clock.advance d with ⟨_ | _, _⟩ <;> rfl
  | setOffset d => rw [step]; rcases s.clock.setOffset d with ⟨_ | _, _⟩ <;> rfl
  | check domain => rw [step]; rcases s.check domain with ⟨_ | _, _⟩ <;> rfl
  | handle m time =>
    have hcases := s.handle_cases m time
    rw [step]
    generalize s.handle m time = r at *
    obtain ⟨a, s'⟩ := r
    cases hcases <;> rfl
  | prune => exact absurd rfl h
  | _ => rfl

/-- The counters of the answers are on the side of the gates. -/
theorem answered_of_gates {d e : Dispatcher} (h : d.gates = e.gates) (a : Admission) :
    d.counters.answered a = e.counters.answered a := by
  rcases a with _ | _ | _
  · exact congrArg Gates.admitted h
  · exact congrArg Gates.blockedByDomain h
  · exact congrArg Gates.blockedByGlobal h

/-- The counter of the windows removed is on the side of the gates. -/
theorem windowsPruned_of_gates {d e : Dispatcher} (h : d.gates = e.gates) :
    d.counters.windowsPruned = e.counters.windowsPruned :=
  congrArg Gates.windowsPruned h

/-- **Every check is counted by its answer.** -/
theorem answered_step (s : Service) (c : Command) (a : Admission) :
    (s.step c).2.dispatcher.counters.answered a
      = s.dispatcher.counters.answered a + .ofNat (s.answersAs a c) := by
  have hstep := s.gateStep c
  unfold answersAs check?
  generalize Check.of? s.clock.time c (s.step c).1 = made at *
  cases hstep with
  | check went gates clock =>
    rw [answered_of_gates gates, Option.toList_some, List.countP_singleton]
    cases went <;> rcases a with _ | _ | _ <;> simp [Counters.answered]
  | prune isPrune gates clock =>
    rw [answered_of_gates gates, Dispatcher.pruneAt_snd]
    rcases a with _ | _ | _ <;> simp [Counters.answered]
  | failed gates | idle gates =>
    rw [answered_of_gates gates]
    simp [Dispatcher.poison]

/-- **The global window is set by the checks that pass the global gate**, and by
each of them. -/
theorem setsWindow_eq (s : Service) (c : Command) :
    s.setsWindow c = s.answersAs .admitted c + s.answersAs (.blocked .domain) c := by
  have hstep := s.gateStep c
  unfold setsWindow answersAs check?
  generalize Check.of? s.clock.time c (s.step c).1 = made at *
  cases hstep with
  | check went gates clock =>
    rw [Dispatcher.globalGate_of_gates gates]
    cases went with
    | blockedByGlobal closed => simp
    | blockedByDomain passed closed => simp [GlobalGate.window_ne_of_passed passed]
    | admitted passed admitted => simp [GlobalGate.window_ne_of_passed passed]
  | prune isPrune gates clock =>
    rw [Dispatcher.globalGate_of_gates gates, Dispatcher.globalGate_pruneAt]
    simp
  | failed gates | idle gates =>
    rw [Dispatcher.globalGate_of_gates gates]
    simp [Dispatcher.poison]

/-- **Windows are counted when a prune removes them.** -/
theorem windowsPruned_step (s : Service) (c : Command) :
    (s.step c).2.dispatcher.counters.windowsPruned
      = s.dispatcher.counters.windowsPruned + .ofNat (s.removesWindows c) := by
  by_cases hc : c = .prune
  · subst hc
    unfold removesWindows
    rw [step_prune_eq]
    rcases s.clock.read with ⟨f | now, k⟩
    · simp [Answer.removals]
    · show (s.dispatcher.pruneAt now).2.counters.windowsPruned = _
      rw [Dispatcher.pruneAt_snd]
      rfl
  · have hstep := s.gateStep c
    rw [removesWindows_of_ne_prune hc]
    generalize Check.of? s.clock.time c (s.step c).1 = made at *
    cases hstep with
    | check went gates clock =>
      rw [windowsPruned_of_gates gates]
      cases went <;> simp
    | prune isPrune gates clock => exact absurd isPrune hc
    | failed gates | idle gates =>
      rw [windowsPruned_of_gates gates]
      simp [Dispatcher.poison]

/-- **Windows come with admissions and go with prunes.** -/
theorem tracked_step (s : Service) (c : Command) :
    (s.step c).2.dispatcher.tracked + s.removesWindows c
      = s.dispatcher.tracked + s.opensWindow c := by
  unfold Dispatcher.tracked
  by_cases hc : c = .prune
  · subst hc
    have hopens : s.opensWindow .prune = 0 := rfl
    unfold removesWindows
    rw [step_prune_eq, hopens]
    rcases s.clock.read with ⟨f | now, k⟩
    · rfl
    · have hcount := s.dispatcher.domainGate.prune_count now
      show (s.dispatcher.pruneAt now).2.domainGate.size + (s.dispatcher.domainGate.prune now).1 = _
      rw [Dispatcher.domainGate_pruneAt]
      omega
  · have hstep := s.gateStep c
    unfold opensWindow check?
    rw [removesWindows_of_ne_prune hc]
    generalize Check.of? s.clock.time c (s.step c).1 = made at *
    cases hstep with
    | check went gates clock =>
      rw [Dispatcher.domainGate_of_gates gates, Option.toList_some, List.countP_singleton]
      cases went with
      | blockedByGlobal closed => simp
      | blockedByDomain passed closed => simp
      | admitted passed admitted => simp [DomainGate.size_check_admitted admitted]
    | prune isPrune gates clock => exact absurd isPrune hc
    | failed gates | idle gates =>
      rw [Dispatcher.domainGate_of_gates gates]
      simp [Dispatcher.poison]

/-! ## Runs -/

/-- **A counter that every step moves by what it amounts to** is moved by a run by
what that comes to. -/
theorem counter_after (m : Service → UInt64) {f : Service → Command → Nat}
    (hstep : ∀ s c, m (s.step c).2 = m s + .ofNat (f s c)) (s : Service) (cs : List Command) :
    m (s.after cs) = m s + .ofNat (s.total f cs) := by
  induction cs generalizing s with
  | nil => simp [total]
  | cons c cs ih => rw [after_cons, ih, hstep, total, UInt64.ofNat_add, UInt64.add_assoc]

/-- What is equal at every step comes to the same. -/
theorem total_congr {f g : Service → Command → Nat} (h : ∀ s c, f s c = g s c) (s : Service)
    (cs : List Command) : s.total f cs = s.total g cs := by
  induction cs generalizing s with
  | nil => rfl
  | cons c cs ih => rw [total, total, h, ih]

/-- Sums come to sums. -/
theorem total_add (f g : Service → Command → Nat) (s : Service) (cs : List Command) :
    s.total (fun s c => f s c + g s c) cs = s.total f cs + s.total g cs := by
  induction cs generalizing s with
  | nil => rfl
  | cons c cs ih =>
    rw [total, total, total, ih]
    omega

/-- The checks of a run with an answer, counted step by step. -/
theorem countP_checks (a : Admission) (s : Service) (cs : List Command) :
    (s.checks cs).countP (fun x => x.answer = a) = s.total (answersAs a) cs := by
  induction cs generalizing s with
  | nil => rfl
  | cons c cs ih => rw [checks, List.countP_append, ih, total, answersAs, check?]

/-- The checks of a run, counted step by step. -/
theorem length_checks (s : Service) (cs : List Command) :
    (s.checks cs).length = s.total completes cs := by
  induction cs generalizing s with
  | nil => rfl
  | cons c cs ih => rw [checks, List.length_append, ih, total, completes_eq, check?]

/-- **The counter of an answer is the number of checks answered so**, in a run of a
new service. -/
theorem answered_after (settings : Settings) (product endpoint : String) (k : Clock)
    (cs : List Command) (a : Admission) :
    let s₀ := begin (.ofSettings settings product endpoint) k
    (s₀.after cs).dispatcher.counters.answered a
      = .ofNat ((s₀.checks cs).countP fun x => x.answer = a) := by
  intro s₀
  have hcount := counter_after (fun s => s.dispatcher.counters.answered a)
    (fun s c => s.answered_step c a) s₀ cs
  have hzero : s₀.dispatcher.counters.answered a = 0 := by rcases a with _ | _ | _ <;> rfl
  rwa [hzero, UInt64.zero_add, ← countP_checks] at hcount

/-- Windows that were there and those that were made are there still or were
removed. -/
theorem tracked_after (s : Service) (cs : List Command) :
    (s.after cs).dispatcher.tracked + s.total removesWindows cs
      = s.dispatcher.tracked + s.total opensWindow cs := by
  induction cs generalizing s with
  | nil => rfl
  | cons c cs ih =>
    have hstep := s.tracked_step c
    have hrest := ih (s.step c).2
    rw [after_cons, total, total]
    omega

end Service

/-- Some checks are those that were admitted and those that either gate blocked. -/
theorem Check.length_eq_countP (l : List Check) :
    l.length = l.countP (fun x => x.answer = .admitted)
      + l.countP (fun x => x.answer = .blocked .global)
      + l.countP (fun x => x.answer = .blocked .domain) := by
  induction l with
  | nil => rfl
  | cons x l ih => rcases hx : x.answer with _ | _ | _ <;> simp [hx, ih] <;> omega

/-- **Counters reconcile with the run**, whatever its commands are, and up to their
wrapping round. The three counters of the answers each hold the number of checks
answered so, and their sum the number of checks that were asked for and have not
failed; admissions and denials by the domain are the times the global window was
set; the windows pruned are the sum of what prunes have answered; and with the
tracked domains they are the admissions that found no window of their domain. -/
theorem counters_reconcile_with_runs (settings : Settings) (product endpoint : String) (k : Clock)
    (cs : List Command) :
    let s₀ := Service.begin (.ofSettings settings product endpoint) k
    let s := s₀.after cs
    let n := s.dispatcher.counters
    n.admitted + n.blockedByGlobal + n.blockedByDomain = .ofNat (s₀.total Service.completes cs) ∧
      (∀ a, n.answered a = .ofNat ((s₀.checks cs).countP fun x => x.answer = a)) ∧
      n.admitted + n.blockedByDomain = .ofNat (s₀.total Service.setsWindow cs) ∧
      n.windowsPruned = .ofNat (s₀.total Service.removesWindows cs) ∧
      .ofNat s.dispatcher.tracked + n.windowsPruned
        = .ofNat (s₀.total Service.opensWindow cs) := by
  intro s₀ s n
  have hanswered := Service.answered_after settings product endpoint k cs
  have hadmitted : n.admitted = _ := hanswered .admitted
  have hglobal : n.blockedByGlobal = _ := hanswered (.blocked .global)
  have hdomain : n.blockedByDomain = _ := hanswered (.blocked .domain)
  have hpruned : n.windowsPruned = .ofNat (s₀.total Service.removesWindows cs) := by
    have hcount := Service.counter_after (fun s => s.dispatcher.counters.windowsPruned)
      Service.windowsPruned_step s₀ cs
    have hzero : s₀.dispatcher.counters.windowsPruned = 0 := rfl
    rwa [hzero, UInt64.zero_add] at hcount
  refine ⟨?_, hanswered, ?_, hpruned, ?_⟩
  · rw [hadmitted, hglobal, hdomain, ← UInt64.ofNat_add, ← UInt64.ofNat_add,
      ← Check.length_eq_countP, Service.length_checks]
  · rw [hadmitted, hdomain, ← UInt64.ofNat_add, Service.countP_checks, Service.countP_checks,
      ← Service.total_add, Service.total_congr Service.setsWindow_eq]
  · have htracked := s₀.tracked_after cs
    have hzero : s₀.dispatcher.tracked = 0 := rfl
    rw [hzero, Nat.zero_add] at htracked
    rw [hpruned, ← UInt64.ofNat_add, htracked]

end Herald
