import Herald.Proofs.Dispatch.Checks
/-!
# What a step does to the sends

A send is handed over by a command, stands among the pending ones if it is not
waited for, and ends in one of three ways, each with a counter of its own. What
a step can do to all of them is said once, in `sendStep`: it does nothing, or
hands one send over, or moves one pending send by a stage, or ends one. An
ending comes with what it was due to.
-/

namespace Herald

/-- How a send ends. -/
inductive Ending where
  /-- The receiver has taken it. -/
  | sent
  /-- Something went wrong. -/
  | failed
  /-- It was given up. -/
  | cancelled
  deriving DecidableEq, Repr

/-- The counter of an ending. -/
def Counters.of (n : Counters) : Ending → UInt64
  | .sent => n.sent
  | .failed => n.failed
  | .cancelled => n.cancelled

/-- **What an ending is due to**: only a status of 200 makes a send sent, only
another outcome or an address nothing can be posted to makes it failed, and it
is cancelled only if it was to be given up. -/
def Ending.Due (endpoint : String) (answer : Option Outcome) (givenUp : Prop) : Ending → Prop
  | .sent => answer = some (.status 200)
  | .failed => (∃ o, answer = some o ∧ o ≠ .status 200) ∨ ∃ f, Endpoint.ofText endpoint = .error f
  | .cancelled => givenUp

/-- The ending of a send with a result. -/
def Ending.ofResult : Except SendError Unit → Ending
  | .ok () => .sent
  | .error _ => .failed

/-- The outcome a pending send has got, if any. -/
def Stage.answer? : Stage → Option Outcome
  | .queued => none
  | .posted o => o

/-- A notice that is handed over, with the token that can cancel it and, for a
send that is waited for, its outcome. -/
structure HandOver where
  notice : Notice
  token : Option String
  outcome : Option Outcome

/-- What a command hands over, by its answer. A filter result hands something
over when it was admitted. -/
def HandOver.of? : Command → Answer → Option HandOver
  | .send n o, _ => some ⟨n, none, some o⟩
  | .sendLater n token, _ => some ⟨n, token, none⟩
  | .handle m time, .matched .dispatched =>
    m.rules.head?.map fun rule => ⟨Service.noticeOf m rule time, none, none⟩
  | _, _ => none

namespace Ending

variable {endpoint : String} {answer : Option Outcome} {givenUp givenUp' : Prop} {x : Ending}

/-- What gave a send up may be described in weaker words. -/
theorem Due.imp (h : x.Due endpoint answer givenUp) (himp : givenUp → givenUp') :
    x.Due endpoint answer givenUp' := by
  cases x with
  | sent => exact h
  | failed => exact h
  | cancelled => exact himp h

/-- What an outcome makes of a send, its ending is due to. -/
theorem due_result (endpoint : String) (givenUp : Prop) (e : Endpoint) (o : Outcome) :
    (ofResult (o.result e)).Due endpoint (some o) givenUp := by
  cases hr : o.result e with
  | ok u => exact congrArg some (Outcome.result_eq_ok_iff.1 hr)
  | error f =>
    refine .inl ⟨o, rfl, ?_⟩
    rintro rfl
    simp [Outcome.result] at hr

/-- Where no request can be made, every send fails. -/
theorem due_request {d : Dispatcher} {n : Notice} {e : SendError}
    (h : d.request n = .error e) (answer : Option Outcome) (givenUp : Prop) :
    Ending.failed.Due d.endpoint answer givenUp := by
  rw [Dispatcher.request] at h
  split at h
  · next f hf => exact .inr ⟨f, hf⟩
  · cases h

end Ending

namespace Service

variable {s s' : Service} {c : Command}

/-- How many sends have ended in each way. -/
def tally (s : Service) (x : Ending) : UInt64 := s.dispatcher.counters.of x

/-- One ending was counted, once, and no other. -/
def Counts (s s' : Service) (x : Ending) : Prop :=
  ∀ y, s'.tally y = if y = x then s.tally y + 1 else s.tally y

/-- Whether the request of a pending send is out and has no outcome yet. -/
def awaits (s : Service) (number : Nat) : Bool :=
  (s.pending? number).any fun p => p.stage = .posted none

/-- The outcome a command brings to a pending send. -/
def arrival (s : Service) (c : Command) (number : Nat) : Option Outcome :=
  match c with
  | .deliver k o => if k = number ∧ s.awaits number then some o else none
  | _ => none

/-- What a step does to the sends, with what it hands over. -/
inductive SendStep (s : Service) (c : Command) (s' : Service) : Option HandOver → Prop
  /-- Nothing. -/
  | idle (pending : s'.pending = s.pending) (handedOver : s'.handedOver = s.handedOver)
      (tally : s'.tally = s.tally) (arrival : s.arrival c = fun _ => none) : SendStep s c s' none
  /-- A send is waited for to its end. -/
  | awaited (n : Notice) (o : Outcome) (x : Ending) (isSend : c = .send n o)
      (pending : s'.pending = s.pending) (handedOver : s'.handedOver = s.handedOver)
      (counts : s.Counts s' x) (due : x.Due s.dispatcher.endpoint (some o) False)
      (arrival : s.arrival c = fun _ => none) : SendStep s c s' (some ⟨n, none, some o⟩)
  /-- A send is handed over after the shutdown. -/
  | dropped (n : Notice) (token : Option String) (shut : s.dispatcher.isShutDown = true)
      (pending : s'.pending = s.pending) (handedOver : s'.handedOver = s.handedOver)
      (counts : s.Counts s' .cancelled) (arrival : s.arrival c = fun _ => none) :
      SendStep s c s' (some ⟨n, token, none⟩)
  /-- A send is handed over. -/
  | handed (n : Notice) (token : Option String) (live : s.dispatcher.isShutDown = false)
      (pending : s'.pending = s.pending ++ [⟨s.handedOver, n, token, .queued⟩])
      (handedOver : s'.handedOver = s.handedOver + 1) (tally : s'.tally = s.tally)
      (arrival : s.arrival c = fun _ => none) : SendStep s c s' (some ⟨n, token, none⟩)
  /-- The request of a pending send is posted. -/
  | posted (p : Send) (found : s.pending? p.number = some p) (queued : p.stage = .queued)
      (pending : s'.pending = s.setStage p.number (.posted none))
      (handedOver : s'.handedOver = s.handedOver) (tally : s'.tally = s.tally)
      (arrival : s.arrival c = fun _ => none) : SendStep s c s' none
  /-- A pending send gets its outcome. -/
  | answered (p : Send) (o : Outcome) (isDeliver : c = .deliver p.number o)
      (pending : s'.pending = s.setStage p.number (.posted (some o)))
      (handedOver : s'.handedOver = s.handedOver) (tally : s'.tally = s.tally)
      (arrival : s.arrival c = fun k => if k = p.number then some o else none) :
      SendStep s c s' none
  /-- A pending send ends, at its turn. -/
  | ended (p : Send) (x : Ending) (isTurn : c = .turn p.number)
      (found : s.pending? p.number = some p)
      (pending : s'.pending = s.without p.number) (handedOver : s'.handedOver = s.handedOver)
      (counts : s.Counts s' x)
      (due : x.Due s.dispatcher.endpoint p.stage.answer? (s.isGivenUp p = true))
      (arrival : s.arrival c = fun _ => none) : SendStep s c s' none

/-! ## The counters of the endings -/

/-- The side of the sends has the counters of the endings. -/
theorem tally_of_outlet (h : s'.dispatcher.outlet = s.dispatcher.outlet) : s'.tally = s.tally := by
  funext x
  simp only [Dispatcher.outlet, Outlet.mk.injEq] at h
  cases x with
  | sent => exact h.2.2.2.1
  | failed => exact h.2.2.2.2.1
  | cancelled => exact h.2.2.2.2.2.1

/-- The end of a send is counted once, by its result. -/
theorem counts_concludeSend (n : Notice) {r : Except SendError Unit}
    (h : s'.dispatcher = (s.dispatcher.concludeSend n r).2) : s.Counts s' (.ofResult r) := by
  intro y
  rw [tally, h]
  cases r <;> cases y <;> rfl

/-- A send that is given up is counted as such. -/
theorem counts_countCancelled (h : s'.dispatcher.counters = s.dispatcher.countCancelled.counters) :
    s.Counts s' .cancelled := by
  intro y
  rw [tally, h]
  cases y <;> rfl

/-! ## What each operation does to the sends -/

/-- What leaves the side of the sends alone does nothing to them. -/
theorem sendStep_idle (hp : s'.pending = s.pending) (hh : s'.handedOver = s.handedOver)
    (hd : s'.dispatcher.outlet = s.dispatcher.outlet) (hc : s.arrival c = fun _ => none) :
    SendStep s c s' none :=
  .idle hp hh (tally_of_outlet hd) hc

/-- A send that is waited for ends at once. -/
theorem sendStep_sendNow (s : Service) (n : Notice) (o : Outcome) :
    SendStep s (.send n o) (s.sendNow n o).2 (some ⟨n, none, some o⟩) := by
  simp only [sendNow]
  split
  · next e he =>
    exact .awaited n o (.ofResult (.error e)) rfl rfl rfl (counts_concludeSend n rfl)
      (Ending.due_request he (some o) False) rfl
  · next endpoint body _ =>
    exact .awaited n o _ rfl rfl rfl (counts_concludeSend _ rfl)
      (Ending.due_result _ _ endpoint o) rfl

/-- A send that is not waited for is handed over, or dropped after the
shutdown. The service may have made a check before. -/
theorem sendStep_sendLater {s₁ : Service} (hp : s₁.pending = s.pending)
    (hh : s₁.handedOver = s.handedOver) (hd : s₁.dispatcher.outlet = s.dispatcher.outlet)
    (hc : s.arrival c = fun _ => none) (n : Notice) (token : Option String) :
    SendStep s c (s₁.sendLater n token) (some ⟨n, token, none⟩) := by
  have hshut : s₁.dispatcher.isShutDown = s.dispatcher.isShutDown :=
    congrArg Outlet.isShutDown hd
  simp only [sendLater]
  split
  · next hs =>
    refine .dropped n token (hshut ▸ hs) hp hh (fun y => ?_) hc
    rw [← tally_of_outlet hd]
    exact counts_countCancelled rfl y
  · next hs =>
    have hlive : s.dispatcher.isShutDown = false := by simpa [hshut] using hs
    exact .handed n token hlive (by rw [hp, hh]) (by rw [hh]) (tally_of_outlet hd) hc

/-- A pending send that is found has the number it was looked for by. -/
theorem number_of_pending? {number : Nat} {p : Send} (h : s.pending? number = some p) :
    p.number = number := by
  simpa using List.find?_some h

/-- A turn posts a send, ends it, or does nothing to it. -/
theorem sendStep_turn (s : Service) (number : Nat) :
    SendStep s (.turn number) (s.turn number) none := by
  simp only [turn]
  split
  · exact .idle rfl rfl rfl rfl
  · next p hp =>
    obtain rfl := number_of_pending? hp
    split
    · -- giving up comes before everything else, whatever the stage
      next hup => exact .ended p .cancelled rfl hp rfl rfl (counts_countCancelled rfl) hup rfl
    · split
      · next e he =>
        exact .ended p (.ofResult (.error e)) rfl hp rfl rfl (counts_concludeSend p.notice rfl)
          (Ending.due_request he _ _) rfl
      · next hq => exact .posted p hp hq rfl rfl rfl rfl
      · exact .idle rfl rfl rfl rfl
      · next endpoint _ o _ ho =>
        refine .ended p _ rfl hp rfl rfl (counts_concludeSend _ rfl) ?_ rfl
        rw [ho]
        exact Ending.due_result _ _ endpoint o

/-- An outcome is taken by a send that waits for one. -/
theorem sendStep_deliver (s : Service) (number : Nat) (o : Outcome) :
    SendStep s (.deliver number o) (s.deliver number o) none := by
  have harr : s.arrival (.deliver number o)
      = fun k => if number = k ∧ s.awaits k then some o else none := rfl
  simp only [deliver]
  split
  · next p hp =>
    obtain rfl := number_of_pending? hp
    split
    · next hst =>
      refine .answered p o rfl rfl rfl rfl (harr.trans (funext fun k => ?_))
      by_cases hk : p.number = k
      · subst hk
        simp [awaits, hp, hst]
      · simp [hk, Ne.symm hk]
    · next hst =>
      refine .idle rfl rfl rfl (harr.trans (funext fun k => if_neg ?_))
      rintro ⟨rfl, hk⟩
      simp [awaits, hp, hst] at hk
  · next hp =>
    refine .idle rfl rfl rfl (harr.trans (funext fun k => if_neg ?_))
    rintro ⟨rfl, hk⟩
    simp [awaits, hp] at hk

/-- A move of the clock does nothing to the sends. -/
theorem sendStep_move (r : Except ClockFault Unit × Clock) (hc : s.arrival c = fun _ => none) :
    SendStep s c (s.move r).2 none := by
  rcases r with ⟨_ | _, _⟩ <;> exact .idle rfl rfl rfl hc

/-- A filter result that is not admitted does nothing to the sends, and one that is admitted is
handed over. -/
theorem sendStep_handle (s : Service) (m : RuleMatch) (time : Timestamp) :
    SendStep s (.handle m time) (s.handle m time).2
      (HandOver.of? (.handle m time) (s.handle m time).1) := by
  have hout : (s.check m.host).2.dispatcher.outlet = s.dispatcher.outlet :=
    s.dispatcher.outlet_check m.host s.clock
  have hcases := s.handle_cases m time
  generalize s.handle m time = r at *
  obtain ⟨a, s'⟩ := r
  -- the check comes first, and what it does is not on the side of the sends
  cases hcases with
  | noRules empty => exact .idle rfl rfl rfl rfl
  | fault f went => exact sendStep_idle rfl rfl hout rfl
  | rateLimited scope went => exact sendStep_idle rfl rfl hout rfl
  | dispatched rule first went =>
    have hof : HandOver.of? (.handle m time) (.matched .dispatched)
        = some ⟨noticeOf m rule time, none, none⟩ := by simp [HandOver.of?, first]
    rw [hof]
    refine sendStep_sendLater ?_ ?_ ?_ rfl _ _
    · rfl
    · rfl
    · exact hout

/-- **What a step can do to the sends.** -/
theorem sendStep (s : Service) (c : Command) :
    SendStep s c (s.step c).2 (HandOver.of? c (s.step c).1) := by
  cases c with
  | advance d => exact sendStep_move (s.clock.advance d) rfl
  | setOffset d => exact sendStep_move (s.clock.setOffset d) rfl
  | failNext => exact .idle rfl rfl rfl rfl
  | check domain =>
    have hout := s.dispatcher.outlet_check domain s.clock
    simp only [step, check]
    rcases hk : s.dispatcher.check domain s.clock with ⟨f | a, d, k⟩ <;> rw [hk] at hout <;>
      exact sendStep_idle rfl rfl hout rfl
  | handle m time => exact s.sendStep_handle m time
  | prune =>
    have hout := s.dispatcher.outlet_prune s.clock
    simp only [step, prune]
    rcases hk : s.dispatcher.prune s.clock with ⟨f | ⟨n, es⟩, d, k⟩ <;> rw [hk] at hout <;>
      exact sendStep_idle rfl rfl hout rfl
  | send n outcome => exact s.sendStep_sendNow n outcome
  | sendLater n token => exact sendStep_sendLater rfl rfl rfl rfl n token
  | cancel token => exact .idle rfl rfl rfl rfl
  | shutDown =>
    simp only [step, shutDown, Dispatcher.shutDown]
    split <;> exact .idle rfl rfl rfl rfl
  | turn number => exact s.sendStep_turn number
  | deliver number outcome => exact s.sendStep_deliver number outcome

end Service

end Herald
