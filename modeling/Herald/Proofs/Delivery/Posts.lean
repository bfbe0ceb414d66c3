import Herald.Proofs.Delivery.Accounting
/-!
# What is posted

Two things post a request: a send that is waited for, and the first turn of a
background send that is not given up. `posts` says which, and a run has posted
what its commands have, one after the other (`requests_after`). A background
send keeps its number, its notice and its token while it is pending, never goes
back to the queue, and only its own turn ends it (`pending?_step`). So what is
true of the send under a number is kept by every step if it is kept while the
send goes on (`forall_pending?_step`): a send that is given up stays so and posts
nothing more, and one that is still queued has not posted anything.
-/

namespace Herald

namespace Dispatcher

/-- The request about a notice, as it is posted for a send. -/
def requestFor (d : Dispatcher) (number : Option Nat) (n : Notice) : Option Request :=
  (d.request n).toOption.map fun r => ⟨number, r.1, r.2⟩

/-- The request of a command that sends and waits. -/
def directRequest (d : Dispatcher) : Command → Option Request
  | .send n _ => d.requestFor none n
  | _ => none

end Dispatcher

/-- A pending send goes on as another: it is the same one, and not back in the
queue. -/
structure Send.GoesOn (p p' : Send) : Prop where
  number : p'.number = p.number
  notice : p'.notice = p.notice
  token : p'.token = p.token
  stage : p'.stage = .queued → p.stage = .queued

/-- A send goes on as it is. -/
theorem Send.GoesOn.refl (p : Send) : p.GoesOn p := ⟨rfl, rfl, rfl, id⟩

/-- With a request that is out. -/
theorem Send.GoesOn.posted (p : Send) (o : Option Outcome) :
    p.GoesOn { p with stage := .posted o } := ⟨rfl, rfl, rfl, nofun⟩

namespace Service

variable {s : Service} {c : Command} {k : Nat} {p p' : Send} {r : Request}

/-- **What a command posts.** -/
def posts (s : Service) : Command → List Request
  | .turn number =>
    match s.pending? number with
    | some p =>
      if s.isGivenUp p = false ∧ p.stage = .queued then
        (s.dispatcher.requestFor (some number) p.notice).toList
      else []
    | none => []
  | c => (s.dispatcher.directRequest c).toList

/-- What a run posts. -/
def posted (s : Service) : List Command → List Request
  | [] => []
  | c :: cs => s.posts c ++ (s.step c).2.posted cs

/-! ## Posting, command by command -/

@[simp] theorem requests_sendLater (s : Service) (n : Notice) (token : Option String) :
    (s.sendLater n token).requests = s.requests := by
  simp only [sendLater]
  split <;> rfl

@[simp] theorem requests_check (s : Service) (domain : String) :
    (s.check domain).2.requests = s.requests := rfl

theorem requests_handle (s : Service) (m : RuleMatch) (time : Timestamp) :
    (s.handle m time).2.requests = s.requests := by
  have hcases := s.handle_cases m time
  generalize s.handle m time = r at *
  obtain ⟨a, s'⟩ := r
  cases hcases with
  | noRules empty => rfl
  | fault f went => rfl
  | rateLimited scope went => rfl
  | dispatched rule first went => exact requests_sendLater _ _ _

theorem requests_prune (s : Service) : s.prune.2.requests = s.requests := by
  simp only [prune]
  rcases s.dispatcher.prune s.clock with ⟨f | ⟨n, es⟩, d, k⟩ <;> rfl

theorem requests_sendNow (s : Service) (n : Notice) (o : Outcome) :
    (s.sendNow n o).2.requests = s.requests ++ (s.dispatcher.requestFor none n).toList := by
  simp only [sendNow, Dispatcher.requestFor]
  cases s.dispatcher.request n with
  | error e => simp [report, Except.toOption]
  | ok r => rfl

theorem requests_turn (s : Service) (number : Nat) :
    (s.turn number).requests = s.requests ++ s.posts (.turn number) := by
  simp only [turn, posts, Dispatcher.requestFor]
  cases s.pending? number with
  | none => simp
  | some p =>
    cases hup : s.isGivenUp p with
    | true => simp [hup, giveUp, report]
    | false =>
      cases hr : s.dispatcher.request p.notice with
      | error e => simp [hup, hr, finish, report, Except.toOption]
      | ok r =>
        cases hs : p.stage with
        | queued => simp [hup, hr, hs, Except.toOption]
        | posted o => cases o <;> simp [hup, hr, hs, finish, report]

theorem requests_shutDown (s : Service) : s.shutDown.requests = s.requests := by
  simp [shutDown, report]

theorem requests_deliver (s : Service) (number : Nat) (o : Outcome) :
    (s.deliver number o).requests = s.requests := by
  simp only [deliver]
  split
  · split <;> rfl
  · rfl

/-- **A step posts what its command posts.** -/
theorem requests_step (s : Service) (c : Command) :
    (s.step c).2.requests = s.requests ++ s.posts c := by
  cases c with
  | send n outcome => exact s.requests_sendNow n outcome
  | turn number => exact s.requests_turn number
  -- the others post nothing
  | advance d => simp [step, posts, Dispatcher.directRequest]
  | setOffset d => simp [step, posts, Dispatcher.directRequest]
  | failNext => exact (List.append_nil _).symm
  | check domain => rw [step_check_snd, requests_check]; exact (List.append_nil _).symm
  | handle m time => exact (s.requests_handle m time).trans (List.append_nil _).symm
  | prune => rw [step_prune_snd, requests_prune]; exact (List.append_nil _).symm
  | sendLater n token => exact (s.requests_sendLater n token).trans (List.append_nil _).symm
  | cancel token => exact (List.append_nil _).symm
  | shutDown => exact s.requests_shutDown.trans (List.append_nil _).symm
  | deliver number outcome =>
    exact (s.requests_deliver number outcome).trans (List.append_nil _).symm

/-- **A run posts what its commands post.** -/
theorem requests_after (s : Service) (cs : List Command) :
    (s.after cs).requests = s.requests ++ s.posted cs := by
  induction cs generalizing s with
  | nil => exact (List.append_nil _).symm
  | cons c cs ih => rw [after_cons, ih, requests_step, posted, List.append_assoc]

/-! ## A pending send from step to step -/

/-- Under a number there is what there was before a change of some stage. -/
theorem pending?_of_setStage {s' : Service} {number : Nat} {stage : Stage}
    (h : s'.pending = s.setStage number stage) :
    s'.pending? k
      = (s.pending? k).map fun p => if p.number = number then { p with stage := stage } else p := by
  rw [pending?, h, setStage, List.find?_map, pending?]
  congr 2
  funext p
  simp only [Function.comp]
  split <;> rfl

/-- What is left when another send is taken out. -/
theorem pending?_of_without {s' : Service} {number : Nat} (h : s'.pending = s.without number)
    (hne : k ≠ number) : s'.pending? k = s.pending? k := by
  rw [pending?, h, without, List.find?_filter, pending?]
  congr 1
  funext p
  by_cases hp : p.number = k <;> simp [hp, hne]

/-- Nothing is left of the one that was taken out. -/
theorem pending?_without_self {s' : Service} (h : s'.pending = s.without k) :
    s'.pending? k = none := by
  rw [pending?, h, without, List.find?_eq_none]
  intro p hp
  simpa using (List.mem_filter.1 hp).2

/-- **A pending send goes on, or its turn has come.** Nothing is ever found under
the number of another, and nothing comes back. -/
theorem pending?_step (hk : k < s.handedOver) (c : Command) :
    (∃ f : Send → Send, (∀ p : Send, p.GoesOn (f p)) ∧
      (s.step c).2.pending? k = (s.pending? k).map f) ∨
    c = .turn k ∧ (s.step c).2.pending? k = none := by
  have hstep := s.sendStep c
  generalize (s.step c).2 = s' at *
  generalize HandOver.of? c (s.step c).1 = handOver at *
  -- most steps leave the pending sends alone or change the stage of one
  have hkept : s'.pending = s.pending → ∃ f : Send → Send, (∀ p : Send, p.GoesOn (f p)) ∧
      s'.pending? k = (s.pending? k).map f := fun hp =>
    ⟨id, .refl, by rw [Option.map_id, pending?, hp]; rfl⟩
  have hstage : ∀ (n : Nat) (o : Option Outcome), s'.pending = s.setStage n (.posted o) →
      ∃ f : Send → Send, (∀ p : Send, p.GoesOn (f p)) ∧ s'.pending? k = (s.pending? k).map f :=
    fun n o hp => by
      refine ⟨_, fun p => ?_, pending?_of_setStage hp⟩
      split
      · exact .posted p o
      · exact .refl p
  cases hstep with
  | idle pending handedOver tally arrival => exact .inl (hkept pending)
  | awaited n o x isSend pending handedOver counts due arrival => exact .inl (hkept pending)
  | dropped n token shut pending handedOver counts arrival => exact .inl (hkept pending)
  | handed n token live pending handedOver tally arrival =>
    -- the new send comes last and has the next number
    refine .inl ⟨id, .refl, ?_⟩
    have hne : ¬ s.handedOver = k := by omega
    rw [Option.map_id, id, pending?, pending, List.find?_append, pending?]
    simp [hne]
  | posted p found queued pending handedOver tally arrival =>
    exact .inl (hstage p.number none pending)
  | answered p o isDeliver pending handedOver tally arrival =>
    exact .inl (hstage p.number (some o) pending)
  | ended p x isTurn found pending handedOver counts due arrival =>
    by_cases hp : k = p.number
    · -- a send ends at its own turn only, so the command is that turn
      subst hp
      exact .inr ⟨isTurn, pending?_without_self pending⟩
    · refine .inl ⟨id, .refl, ?_⟩
      rw [Option.map_id, id, pending?_of_without pending hp]

/-- No number is given twice. -/
theorem handedOver_step (s : Service) (c : Command) : s.handedOver ≤ (s.step c).2.handedOver := by
  have hstep := s.sendStep c
  generalize (s.step c).2 = s' at *
  generalize HandOver.of? c (s.step c).1 = handOver at *
  cases hstep <;> omega

/-- **What is kept while a send goes on** is kept of the send under a number,
whether it is still pending or not. -/
theorem forall_pending?_step {P Q : Send → Prop} (hk : k < s.handedOver)
    (hkeep : ∀ p p' : Send, p.GoesOn p' → P p → Q p') (h : ∀ p, s.pending? k = some p → P p)
    (c : Command) : ∀ p, (s.step c).2.pending? k = some p → Q p := by
  intro p' hp'
  rcases pending?_step hk c with ⟨f, hf, hnext⟩ | ⟨-, hnone⟩
  · rw [hnext, Option.map_eq_some_iff] at hp'
    obtain ⟨p, hp, rfl⟩ := hp'
    exact hkeep p (f p) (hf p) (h p hp)
  · rw [hnone] at hp'
    cases hp'

/-! ## Requests of background sends -/

/-- The request made for a send has its number. -/
theorem send_of_requestFor {d : Dispatcher} {number : Option Nat} {n : Notice}
    (h : r ∈ (d.requestFor number n).toList) :
    r.send = number ∧ ∃ m, d.request n = .ok m := by
  rw [Dispatcher.requestFor, Option.mem_toList] at h
  cases hm : d.request n with
  | error e => simp [hm, Except.toOption] at h
  | ok m =>
    obtain rfl : _ = r := Option.some.inj (hm ▸ h)
    exact ⟨rfl, m, rfl⟩

/-- **The request of a background send is posted by its own turn**, when it is
queued and not given up. -/
theorem turn_of_mem_posts (hr : r ∈ s.posts c) (hk : r.send = some k) :
    c = .turn k ∧ ∃ p, s.pending? k = some p ∧ s.isGivenUp p = false ∧ p.stage = .queued
      ∧ ∃ m, s.dispatcher.request p.notice = .ok m := by
  cases c with
  | turn number =>
    simp only [posts] at hr
    split at hr
    · next p hp =>
      split at hr
      · next hgo =>
        obtain ⟨hnumber, hm⟩ := send_of_requestFor hr
        obtain rfl : number = k := Option.some.inj (hnumber.symm.trans hk)
        exact ⟨rfl, p, hp, hgo.1, hgo.2, hm⟩
      · cases hr
    · cases hr
  | send n outcome =>
    obtain ⟨hnone, -⟩ := send_of_requestFor hr
    rw [hnone] at hk
    cases hk
  | _ => cases hr

/-- A background send has left the queue: nothing is queued under its number,
and never will be again. -/
def HasLeftQueue (s : Service) (k : Nat) : Prop :=
  k < s.handedOver ∧ ∀ p, s.pending? k = some p → p.stage ≠ .queued

/-- Nothing goes back to the queue. -/
theorem HasLeftQueue.step (h : s.HasLeftQueue k) (c : Command) : (s.step c).2.HasLeftQueue k :=
  ⟨Nat.lt_of_lt_of_le h.1 (s.handedOver_step c),
    forall_pending?_step h.1 (fun _ _ hgoes hne hq => hne (hgoes.stage hq)) h.2 c⟩

/-- Posting takes a send out of the queue. -/
theorem hasLeftQueue_of_mem_posts (hbelow : ∀ n ∈ s.pending.map Send.number, n < s.handedOver)
    (hr : r ∈ s.posts c) (hk : r.send = some k) : (s.step c).2.HasLeftQueue k := by
  obtain ⟨rfl, p, hp, hup, hq, ⟨e, b⟩, hm⟩ := turn_of_mem_posts hr hk
  have hnumber := number_of_pending? hp
  have hturn : s.turn k = { s with
      pending := s.setStage k (.posted none)
      requests := s.requests ++ [Request.mk (some k) e b] } := by
    simp [turn, hp, hup, hm, hq]
  have hnext : (s.step (.turn k)).2.pending? k = some { p with stage := .posted none } := by
    rw [step, pending?_of_setStage (s := s) (by rw [hturn]), hp, Option.map_some, if_pos hnumber]
  refine ⟨?_, fun p' hp' => ?_⟩
  · exact Nat.lt_of_lt_of_le (hbelow k (hnumber ▸ List.mem_map_of_mem (mem_of_pending? hp)))
      (s.handedOver_step _)
  · obtain rfl := Option.some.inj (hnext.symm.trans hp')
    simp

/-- **Requests belong to sends that have left the queue**, in any run of a new
service. So a send that is still queued has not posted anything. -/
theorem hasLeftQueue_of_mem_requests (settings : Settings) (product endpoint : String)
    (clock : Clock) (cs : List Command) :
    let s := (begin (.ofSettings settings product endpoint) clock).after cs
    ∀ r ∈ s.requests, ∀ k, r.send = some k → s.HasLeftQueue k := by
  refine invariant_run (P := fun _ s => ∀ r ∈ s.requests, ∀ k, r.send = some k → s.HasLeftQueue k)
    (fun r hr => absurd hr List.not_mem_nil) (fun cs c ih r hr k hk => ?_) cs
  rw [requests_step, List.mem_append] at hr
  rcases hr with hr | hr
  · exact (ih r hr k hk).step c
  · exact hasLeftQueue_of_mem_posts (Balanced.after settings product endpoint clock cs).below hr hk

end Service

end Herald
