import Herald.Proofs.Dispatch.Checks
/-!
# Who has given up

Whether a pending send goes on depends on two things that only ever come to
be true: the shutdown, and the tokens that have fired. Nothing but the command
for it changes either (`standing_step`), so both can be read off the run: a
send of a new service is to be given up exactly when the run has a shutdown in
it or has fired the send's token (`isGivenUp_after`).
-/

namespace Herald

/-- What sends are made with, and what makes them be given up. -/
structure Standing where
  settings : Settings
  product : String
  endpoint : String
  isShutDown : Bool
  fired : List String

/-- What a command does to it. -/
def Standing.step (t : Standing) : Command → Standing
  | .cancel token => { t with fired := token :: t.fired }
  | .shutDown => { t with isShutDown := true }
  | _ => t

namespace Service

variable {s s' : Service}

/-- The standing of a service. -/
def standing (s : Service) : Standing where
  settings := s.dispatcher.settings
  product := s.dispatcher.product
  endpoint := s.dispatcher.endpoint
  isShutDown := s.dispatcher.isShutDown
  fired := s.fired

/-! ## What each operation does to it -/

/-- It is on the side of the sends, but for the tokens. -/
theorem standing_of_outlet (hd : s'.dispatcher.outlet = s.dispatcher.outlet)
    (hf : s'.fired = s.fired) : s'.standing = s.standing := by
  simp only [Dispatcher.outlet, Outlet.mk.injEq] at hd
  obtain ⟨hs, hp, he, -, -, -, hi⟩ := hd
  simp only [standing, hs, hp, he, hi, hf]

@[simp] theorem standing_report (s : Service) (es : List LogEvent) :
    (s.report es).standing = s.standing := rfl

/-- The end of a send does not change it. -/
theorem standing_concludeSend (n : Notice) (r : Except SendError Unit)
    (hd : s'.dispatcher = (s.dispatcher.concludeSend n r).2) (hf : s'.fired = s.fired) :
    s'.standing = s.standing := by
  simp only [standing, hd, hf]
  cases r <;> rfl

@[simp] theorem standing_move (s : Service) (r : Except ClockFault Unit × Clock) :
    (s.move r).2.standing = s.standing := by
  rcases r with ⟨_ | _, _⟩ <;> rfl

@[simp] theorem standing_check (s : Service) (domain : String) :
    (s.check domain).2.standing = s.standing :=
  standing_of_outlet (s.dispatcher.outlet_check domain s.clock) rfl

@[simp] theorem standing_sendLater (s : Service) (n : Notice) (token : Option String) :
    (s.sendLater n token).standing = s.standing := by
  simp only [sendLater]
  split <;> rfl

@[simp] theorem standing_handle (s : Service) (m : RuleMatch) (time : Timestamp) :
    (s.handle m time).2.standing = s.standing := by
  have hcheck := s.standing_check m.host
  have hcases := s.handle_cases m time
  generalize s.handle m time = r at *
  obtain ⟨a, s'⟩ := r
  cases hcases with
  | noRules empty => rfl
  | fault f went => exact hcheck
  | rateLimited scope went => exact hcheck
  | dispatched rule first went => exact (standing_sendLater _ _ _).trans hcheck

@[simp] theorem standing_prune (s : Service) : s.prune.2.standing = s.standing := by
  have hout := s.dispatcher.outlet_prune s.clock
  simp only [prune]
  rcases hk : s.dispatcher.prune s.clock with ⟨f | ⟨n, es⟩, d, k⟩ <;> rw [hk] at hout <;>
    exact standing_of_outlet hout rfl

@[simp] theorem standing_sendNow (s : Service) (n : Notice) (o : Outcome) :
    (s.sendNow n o).2.standing = s.standing := by
  simp only [sendNow]
  split <;> exact standing_concludeSend n _ rfl rfl

@[simp] theorem standing_turn (s : Service) (number : Nat) :
    (s.turn number).standing = s.standing := by
  simp only [turn]
  split
  · rfl
  · next p _ =>
    split
    · rfl
    · split
      · next e _ => exact standing_concludeSend p.notice (.error e) rfl rfl
      · rfl
      · rfl
      · next endpoint _ o _ _ => exact standing_concludeSend p.notice (o.result endpoint) rfl rfl

@[simp] theorem standing_deliver (s : Service) (number : Nat) (o : Outcome) :
    (s.deliver number o).standing = s.standing := by
  simp only [deliver]
  split
  · split <;> rfl
  · rfl

/-- **Only its own command gives sends up.** -/
theorem standing_step (s : Service) (c : Command) :
    (s.step c).2.standing = s.standing.step c := by
  cases c with
  | advance d => exact s.standing_move _
  | setOffset d => exact s.standing_move _
  | failNext => rfl
  | check domain => rw [step_check_snd]; exact s.standing_check domain
  | handle m time => exact s.standing_handle m time
  | prune => rw [step_prune_snd]; exact s.standing_prune
  | send n outcome => exact s.standing_sendNow n outcome
  | sendLater n token => exact s.standing_sendLater n token
  | cancel token => rfl
  | shutDown =>
    simp only [step, shutDown, Dispatcher.shutDown]
    split
    · -- a second shutdown finds nothing to change
      next h => simp [standing, Standing.step, report, h]
    · rfl
  | turn number => exact s.standing_turn number
  | deliver number outcome => exact s.standing_deliver number outcome

/-! ## What a run does to it -/

/-- After a run it is what its commands have made of it. -/
theorem standing_after (s : Service) (cs : List Command) :
    (s.after cs).standing = cs.foldl Standing.step s.standing := by
  induction cs generalizing s with
  | nil => rfl
  | cons c cs ih => rw [after_cons, ih, standing_step, List.foldl_cons]

/-- The shutdown has come in some commands or before them. -/
theorem isShutDown_foldl (t : Standing) (cs : List Command) :
    (cs.foldl Standing.step t).isShutDown = true ↔ t.isShutDown = true ∨ .shutDown ∈ cs := by
  induction cs generalizing t with
  | nil => simp
  | cons c cs ih =>
    rw [List.foldl_cons, ih]
    cases c <;> simp [Standing.step]

/-- A token has fired in some commands or before them. -/
theorem mem_fired_foldl (t : Standing) (token : String) (cs : List Command) :
    token ∈ (cs.foldl Standing.step t).fired ↔ token ∈ t.fired ∨ .cancel token ∈ cs := by
  induction cs generalizing t with
  | nil => simp
  | cons c cs ih =>
    rw [List.foldl_cons, ih]
    cases c <;> simp [Standing.step, or_assoc, or_left_comm]

/-- A service is shut down after a run exactly if it was before or the run has
shut it down. -/
theorem isShutDown_after (s : Service) (cs : List Command) :
    (s.after cs).dispatcher.isShutDown = true ↔ s.dispatcher.isShutDown = true ∨ .shutDown ∈ cs := by
  have h := isShutDown_foldl s.standing cs
  rwa [← standing_after] at h

/-- **Who is given up.** A send of a new service is to be given up exactly when
the run has shut the service down or fired the send's token. -/
theorem isGivenUp_after {d : Dispatcher} (hd : d.isShutDown = false) (k : Clock)
    (cs : List Command) (p : Send) :
    ((begin d k).after cs).isGivenUp p = true ↔
      .shutDown ∈ cs ∨ ∃ token, p.token = some token ∧ .cancel token ∈ cs := by
  have hshut := isShutDown_foldl (begin d k).standing cs
  have hfired := fun token => mem_fired_foldl (begin d k).standing token cs
  rw [← standing_after] at hshut
  simp only [← standing_after] at hfired
  simp only [isGivenUp, Bool.or_eq_true, Option.any_eq_true, List.contains_iff_mem]
  refine or_congr (hshut.trans ?_) (exists_congr fun token => and_congr_right fun _ =>
    (hfired token).trans ?_)
  · simp [standing, begin, ofDispatcher, hd]
  · simp [standing, begin, ofDispatcher]

/-- No step changes where messages are posted to. -/
theorem endpoint_step (s : Service) (c : Command) :
    (s.step c).2.dispatcher.endpoint = s.dispatcher.endpoint := by
  have h := congrArg Standing.endpoint (s.standing_step c)
  cases c <;> exact h

/-- No run changes where messages are posted to. -/
theorem endpoint_after (s : Service) (cs : List Command) :
    (s.after cs).dispatcher.endpoint = s.dispatcher.endpoint :=
  invariant_after (P := fun s' => s'.dispatcher.endpoint = s.dispatcher.endpoint) rfl
    (fun s' c h => (s'.endpoint_step c).trans h) cs

end Service

end Herald
