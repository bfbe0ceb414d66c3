import Herald.Proofs.Delivery.Sends
import Mathlib.Algebra.Order.Ring.Int
/-!
# What the log tells

Counters are moved in one place and events are reported in another, and neither
says everything: a failure that is waited for is answered and not reported, and a
denial is reported only if a filter result was denied. `Told` says of a stretch of
a run what its answers and its events owe the counters, and each other. Nothing is
owed at first (`Told.refl`), what is owed adds up (`Told.trans`), and every step
settles its own (`told_step`); so log and counters tell the same story at any point
of any run. There the events are known by their lines: level, message and fields.
-/

namespace Herald

/-! ## What an event tells -/

namespace LogEvent

/-- The ending an event tells of, if it tells of one. -/
def ending? : LogEvent → Option Ending
  | .sent _ _ => some .sent
  | .sendFailed _ _ => some .failed
  | .cancelled _ => some .cancelled
  | .dropped _ => some .cancelled
  | _ => none

/-- The scope an event says has denied a filter result. -/
def limit? : LogEvent → Option Scope
  | .rateLimited _ scope => some scope
  | _ => none

/-- How many windows the trace of a prune says were removed. -/
def traced : LogEvent → Nat
  | .pruned _ removed => removed
  | _ => 0

/-- How many windows the report of a prune says were removed. -/
def reported : LogEvent → Nat
  | .removedStale removed => removed
  | _ => 0

/-! ## How it is read -/

/-- Whether the line of an event has a level and a message. -/
def reads (level : Level) (message : String) (e : LogEvent) : Bool :=
  e.level = level ∧ e.message = message

/-- The text of a field, if the event has it. -/
def field? (name : String) (e : LogEvent) : Option String := e.fields.lookup name

/-- The number in a field; without a number there it is zero. -/
def number (name : String) (e : LogEvent) : Nat :=
  ((e.field? name).bind fun text => Digits.readDecimal? text.toList).getD 0

/-- A count reads back from its field. -/
theorem readDecimal?_count (n : Nat) : Digits.readDecimal? (count n).toList = some n := by
  rw [count, String.toList_ofList, Digits.readDecimal?_decimal]

/-- The trace of a prune has both numbers in its fields. -/
theorem numbers_pruned (e : LogEvent) (h : e.reads .trace "pruned domain rate windows" = true) :
    e = .pruned (e.number "before") (e.number "removed") := by
  cases e <;> simp [reads, level, message] at h
  simp [number, field?, fields, List.lookup_cons, readDecimal?_count]

/-- How often a line is in a log. -/
def lines (level : Level) (message : String) (log : List LogEvent) : Nat :=
  log.countP (reads level message)

/-- What the field `removed` comes to in the lines of a log. -/
def removals (level : Level) (message : String) (log : List LogEvent) : Nat :=
  ((log.filter (reads level message)).map (number "removed")).sum

/-- The lines that tell of a send that was taken. -/
theorem lines_sent (log : List LogEvent) :
    lines .debug "pushover notification sent" log = log.countP fun e => e.ending? = some .sent :=
  List.countP_congr fun e _ => by cases e <;> simp [reads, level, message, ending?]

/-- The lines that tell of a send that failed: it is their level that tells them from
those of a send that begins. -/
theorem lines_sendFailed (log : List LogEvent) :
    lines .error "sending pushover notification" log
      = log.countP fun e => e.ending? = some .failed :=
  List.countP_congr fun e _ => by cases e <;> simp [reads, level, message, ending?]

/-- The two lines that tell of a send that was given up. -/
theorem lines_cancelled (log : List LogEvent) :
    lines .debug "pushover notification cancelled" log
        + lines .debug "dispatcher shut down, dropping notification" log
      = log.countP fun e => e.ending? = some .cancelled := by
  unfold lines
  induction log with
  | nil => rfl
  | cons e log ih =>
    cases e <;> simp [reads, level, message, ending?] at ih ⊢ <;> omega

/-- The lines that tell of a filter result that a scope has denied. -/
theorem lines_limited (scope : Scope) (log : List LogEvent) :
    log.countP (fun e => e.reads .debug "notification rate limited"
        ∧ e.field? "limit_type" = some scope.label)
      = log.countP fun e => e.limit? = some scope := by
  refine List.countP_congr fun e _ => ?_
  cases e with
  | rateLimited domain s =>
    cases s <;> cases scope <;>
      simp [reads, level, message, field?, fields, List.lookup_cons, Scope.label, limit?]
  | _ => simp [reads, level, message, limit?]

/-- The lines that trace a prune. -/
theorem removals_traced (log : List LogEvent) :
    removals .trace "pruned domain rate windows" log = (log.map traced).sum := by
  unfold removals
  induction log with
  | nil => rfl
  | cons e log ih =>
    cases e <;>
      simp [reads, level, message, traced, number, field?, fields, List.lookup_cons,
        readDecimal?_count] at ih ⊢ <;>
      omega

/-- The lines that report one. -/
theorem removals_reported (log : List LogEvent) :
    removals .debug "removed stale notification rate windows" log
      = (log.map reported).sum := by
  unfold removals
  induction log with
  | nil => rfl
  | cons e log ih =>
    cases e <;>
      simp [reads, level, message, reported, number, field?, fields, readDecimal?_count] at ih ⊢ <;>
      omega

end LogEvent

/-! ## What an answer tells -/

/-- The ending an answer tells of: the failure of a send that was waited for. -/
def Answer.failure? : Answer → Option Ending
  | .sent (.error _) => some .failed
  | _ => none

/-- It is a failure. -/
theorem Answer.failure?_ne {x : Ending} (hx : x ≠ .failed) (a : Answer) :
    a.failure? ≠ some x := by
  unfold failure?
  split
  · simpa using hx.symm
  · simp

/-- The scope an answer says has denied a filter result. -/
def Answer.limit? : Answer → Option Scope
  | .matched (.rateLimited scope) => some scope
  | _ => none

/-- What a prune tells: it traces every time, and reports windows that it has
removed. -/
theorem Dispatcher.pruneAt_log (d : Dispatcher) (now : Moment) :
    (d.pruneAt now).1.2 = .pruned d.domainGate.size (d.domainGate.prune now).1
      :: if (d.domainGate.prune now).1 = 0 then []
        else [.removedStale (d.domainGate.prune now).1] := by
  simp only [pruneAt, notePrune]
  split
  · next h => simp [h]
  · rfl

namespace Service

variable {s s' s'' : Service} {as bs : List Answer} {es fs : List LogEvent} {c : Command}

/-! ## What is owed -/

/-- **From one state to another**, with the answers given and the events reported
in between: endings are counted as often as they are reported or answered, the
windows pruned are those that were reported and those that were traced, no more of
them than there were, and denials are reported as often as they are answered. -/
structure Told (s s' : Service) (as : List Answer) (es : List LogEvent) : Prop where
  log : s'.log = s.log ++ es
  endings : ∀ x, s'.tally x = s.tally x
    + .ofNat (es.countP (fun e => e.ending? = some x) + as.countP fun a => a.failure? = some x)
  pruned : s'.dispatcher.counters.windowsPruned
    = s.dispatcher.counters.windowsPruned + .ofNat (es.map LogEvent.reported).sum
  traced : (es.map LogEvent.traced).sum = (es.map LogEvent.reported).sum
  before : ∀ before removed, .pruned before removed ∈ es → removed ≤ before
  limited : ∀ scope, es.countP (fun e => e.limit? = some scope)
    = as.countP fun a => a.limit? = some scope

namespace Told

/-- Where nothing is said or done, nothing is owed. -/
theorem refl (s : Service) : s.Told s [] [] where
  log := (List.append_nil _).symm
  endings x := by simp
  pruned := by simp
  traced := rfl
  before _ _ h := nomatch h
  limited _ := rfl

/-- What two stretches owe, both of them owe together. -/
theorem trans (h : s.Told s' as es) (h' : s'.Told s'' bs fs) :
    s.Told s'' (as ++ bs) (es ++ fs) where
  log := by rw [h'.log, h.log, List.append_assoc]
  endings x := by
    rw [h'.endings x, h.endings x, UInt64.add_assoc, ← UInt64.ofNat_add, List.countP_append,
      List.countP_append]
    congr 2
    omega
  pruned := by
    rw [h'.pruned, h.pruned, UInt64.add_assoc, ← UInt64.ofNat_add, List.map_append,
      List.sum_append]
  traced := by
    rw [List.map_append, List.map_append, List.sum_append, List.sum_append, h.traced, h'.traced]
  before b r hmem := (List.mem_append.1 hmem).elim (h.before b r) (h'.before b r)
  limited scope := by
    rw [List.countP_append, List.countP_append, h.limited, h'.limited]

/-- An answer that tells nothing owes nothing. -/
theorem answered (h : s.Told s' [] es) {a : Answer} (hf : a.failure? = none)
    (hl : a.limit? = none) : s.Told s' [a] es where
  log := h.log
  endings x := by rw [h.endings x]; simp [hf]
  pruned := h.pruned
  traced := h.traced
  before := h.before
  limited scope := by rw [h.limited scope]; simp [hl]

/-- A change that no counter and no log notices settles nothing and owes nothing. -/
theorem silent (hl : s'.log = s.log) (ht : s'.tally = s.tally)
    (hp : s'.dispatcher.counters.windowsPruned = s.dispatcher.counters.windowsPruned) :
    s.Told s' [] [] where
  log := by rw [hl, List.append_nil]
  endings x := by simp [ht]
  pruned := by simp [hp]
  traced := rfl
  before _ _ h := nomatch h
  limited _ := rfl

/-- An ending that is counted owes the event that tells of it. -/
theorem ending {x : Ending} {e : LogEvent} (he : e.ending? = some x)
    (hl : s'.log = s.log ++ [e]) (ht : s.Counts s' x)
    (hp : s'.dispatcher.counters.windowsPruned = s.dispatcher.counters.windowsPruned) :
    s.Told s' [] [e] where
  log := hl
  endings y := by
    rw [ht y]
    by_cases hy : y = x
    · simp [he, hy]
    · simp [he, hy, Ne.symm hy]
  pruned := by
    rw [hp]
    cases e <;> simp [LogEvent.ending?, LogEvent.reported] at he ⊢
  traced := by cases e <;> simp [LogEvent.ending?, LogEvent.traced, LogEvent.reported] at he ⊢
  before b r hmem := by
    obtain rfl := List.mem_singleton.1 hmem
    cases he
  limited scope := by cases e <;> simp [LogEvent.ending?, LogEvent.limit?] at he ⊢

/-- An event that is only a remark owes nothing. -/
theorem remark {e : LogEvent} (he : e.ending? = none) (hl : e.limit? = none)
    (hnone : ∀ before removed, e ≠ .pruned before removed) (hr : e.reported = 0) (s : Service) :
    s.Told (s.report [e]) [] [e] where
  log := rfl
  endings x := by simp [report, tally, he]
  pruned := by simp [report, hr]
  traced := by
    have ht : e.traced = 0 := by
      cases e with
      | pruned b r => exact absurd rfl (hnone b r)
      | _ => rfl
    simp [ht, hr]
  before b r hmem := absurd (List.mem_singleton.1 hmem).symm (hnone b r)
  limited scope := by simp [hl]

end Told

/-! ## What each operation settles -/

/-- A check moves counters of its own. -/
theorem told_check (s : Service) (domain : String) : s.Told (s.check domain).2 [] [] := by
  have hout := s.dispatcher.outlet_check domain s.clock
  refine .silent rfl (tally_of_outlet hout) ?_
  rw [check_eq]
  rcases s.clock.read with ⟨f | now, k⟩
  · rfl
  · have hcheck := s.dispatcher.checkAt_cases domain now
    dsimp only
    generalize s.dispatcher.checkAt domain now = r at *
    obtain ⟨a, d⟩ := r
    cases hcheck <;> rfl

/-- A notice that comes after the shutdown is counted and reported at once. -/
theorem told_sendLater (s : Service) (n : Notice) (token : Option String) :
    ∃ es, s.Told (s.sendLater n token) [] es := by
  simp only [sendLater]
  split
  · exact ⟨_, .ending (x := .cancelled) rfl rfl (counts_countCancelled rfl) rfl⟩
  · exact ⟨_, .silent rfl rfl rfl⟩

/-- A denial is reported and answered, and the notice of an admission is sent. -/
theorem told_handle (s : Service) (m : RuleMatch) (time : Timestamp) :
    ∃ es, s.Told (s.handle m time).2 [(s.handle m time).1] es := by
  have hcheck : s.Told (s.check m.host).2 [] [] := told_check s m.host
  have hcases := s.handle_cases m time
  generalize s.handle m time = r at *
  obtain ⟨a, s'⟩ := r
  cases hcases with
  | noRules empty => exact ⟨_, (Told.refl _).answered rfl rfl⟩
  | fault f went => exact ⟨_, hcheck.answered rfl rfl⟩
  | rateLimited scope went =>
    have hlimited : (s.check m.host).2.Told ((s.check m.host).2.report [.rateLimited m.host scope])
        [.matched (.rateLimited scope)] [.rateLimited m.host scope] := {
      log := rfl
      endings := fun x => by simp [Service.report, tally, LogEvent.ending?, Answer.failure?]
      pruned := by simp [Service.report, LogEvent.reported]
      traced := rfl
      before := fun _ _ h => by cases List.mem_singleton.1 h
      limited := fun s => by simp [LogEvent.limit?, Answer.limit?] }
    exact ⟨_, hcheck.trans hlimited⟩
  | dispatched rule first went =>
    obtain ⟨es, hsend⟩ := ((s.check m.host).2.report [.sending m.host rule m.reason]).told_sendLater
      (noticeOf m rule time) none
    have hremark := Told.remark (e := .sending m.host rule m.reason) rfl rfl (by simp) rfl
      (s.check m.host).2
    exact ⟨_, ((hcheck.trans hremark).trans hsend).answered rfl rfl⟩

/-- What a prune counts it reports. -/
theorem told_pruneAt {now : Moment} (hd : s'.dispatcher = (s.dispatcher.pruneAt now).2)
    (hl : s'.log = s.log ++ (s.dispatcher.pruneAt now).1.2) :
    s.Told s' [] (s.dispatcher.pruneAt now).1.2 := by
  have hcount := s.dispatcher.domainGate.prune_count now
  have hevents := s.dispatcher.pruneAt_log now
  rw [s.dispatcher.pruneAt_snd] at hd
  generalize (s.dispatcher.pruneAt now).1.2 = es at *
  -- there is a report where windows were removed
  have hreported : (es.map LogEvent.reported).sum = (s.dispatcher.domainGate.prune now).1 := by
    rw [hevents]
    split <;> simp_all [LogEvent.reported]
  have htraced : (es.map LogEvent.traced).sum = (s.dispatcher.domainGate.prune now).1 := by
    rw [hevents]
    split <;> simp [LogEvent.traced]
  exact {
    log := hl
    endings := fun x => by
      have hnone : es.countP (fun e => e.ending? = some x) = 0 := by
        rw [hevents]
        split <;> simp [LogEvent.ending?]
      rw [hnone, tally, hd]
      cases x <;> simp [tally, Counters.of]
    pruned := by rw [hreported, hd]
    traced := by rw [htraced, hreported]
    before := fun b r hmem => by
      -- it is the trace that has both numbers
      have htrace : b = s.dispatcher.domainGate.size
          ∧ r = (s.dispatcher.domainGate.prune now).1 := by
        rw [hevents] at hmem
        split at hmem <;> simpa using hmem
      omega
    limited := fun scope => by
      rw [hevents]
      split <;> simp [LogEvent.limit?] }

theorem told_prune (s : Service) : ∃ es, s.Told (s.step .prune).2 [(s.step .prune).1] es := by
  rw [step_prune_eq]
  rcases s.clock.read with ⟨f | now, k⟩
  · have hsilent : s.Told { s with clock := k } [] [] := .silent rfl rfl rfl
    exact ⟨_, hsilent.answered rfl rfl⟩
  · exact ⟨_, (told_pruneAt rfl rfl).answered rfl rfl⟩

/-- A send that is waited for is counted, and told by its report or by its answer. -/
theorem told_conclude {n : Notice} {r : Except SendError Unit}
    (hd : s'.dispatcher = (s.dispatcher.concludeSend n r).2)
    (hl : s'.log = s.log ++ (s.dispatcher.concludeSend n r).1) :
    s.Told s' [.sent r] (s.dispatcher.concludeSend n r).1 := by
  have hcounts := counts_concludeSend n hd
  have hpruned : s'.dispatcher.counters.windowsPruned = s.dispatcher.counters.windowsPruned := by
    rw [hd]
    cases r <;> rfl
  cases r with
  | ok u => exact (Told.ending (x := .sent) rfl hl hcounts hpruned).answered rfl rfl
  | error e =>
    exact {
      log := hl
      endings := fun x => by
        rw [hcounts x]
        cases x <;> simp [Ending.ofResult, Answer.failure?, Dispatcher.concludeSend]
      pruned := by simp [hpruned, Dispatcher.concludeSend]
      traced := rfl
      before := fun _ _ h => nomatch h
      limited := fun _ => rfl }

theorem told_sendNow (s : Service) (n : Notice) (o : Outcome) :
    ∃ es, s.Told (s.sendNow n o).2 [.sent (s.sendNow n o).1] es := by
  simp only [sendNow]
  split
  · exact ⟨_, told_conclude rfl rfl⟩
  · exact ⟨_, told_conclude rfl rfl⟩

/-- The end of a background send is counted and reported, whichever it is. -/
theorem told_finish (s : Service) (p : Send) (r : Except SendError Unit) :
    ∃ es, s.Told (s.finish p r) [] es := by
  cases r with
  | ok u =>
    refine ⟨[.sent p.notice.domain p.notice.reason], .ending (x := .sent) rfl rfl ?_ rfl⟩
    exact counts_concludeSend p.notice (r := .ok u) rfl
  | error e =>
    refine ⟨[.sendFailed p.notice.domain e.message], .ending (x := .failed) rfl rfl ?_ rfl⟩
    exact counts_concludeSend p.notice (r := .error e) rfl

/-- A turn of a background send tells of its end, if it ends by it. -/
theorem told_turn (s : Service) (number : Nat) : ∃ es, s.Told (s.turn number) [] es := by
  simp only [turn]
  split
  · exact ⟨_, .refl s⟩
  · next p _ =>
    split
    · exact ⟨[.cancelled p.notice.domain],
        .ending (x := .cancelled) rfl rfl (counts_countCancelled rfl) rfl⟩
    · split
      · exact s.told_finish p _
      · exact ⟨_, .silent rfl rfl rfl⟩
      · exact ⟨_, .refl s⟩
      · exact s.told_finish p _

/-- The shutdown is a remark. -/
theorem told_shutDown (s : Service) : ∃ es, s.Told s.shutDown [] es := by
  cases hshut : s.dispatcher.isShutDown with
  | true =>
    have h : s.Told s.shutDown [] [] := by
      refine .silent ?_ ?_ ?_ <;> simp [shutDown, Dispatcher.shutDown, hshut, report]
    exact ⟨_, h⟩
  | false =>
    have hafter : s.shutDown
        = { s with dispatcher := { s.dispatcher with isShutDown := true } }.report
          [.shuttingDown] := by
      simp [shutDown, Dispatcher.shutDown, hshut]
    have hsilent : s.Told { s with dispatcher := { s.dispatcher with isShutDown := true } } [] [] :=
      .silent rfl rfl rfl
    rw [hafter]
    exact ⟨_, hsilent.trans (.remark rfl rfl (by simp) rfl _)⟩

/-- An outcome that comes in is not noticed yet. -/
theorem told_deliver (s : Service) (number : Nat) (o : Outcome) :
    s.Told (s.deliver number o) [] [] := by
  simp only [deliver]
  split
  · split
    · exact .silent rfl rfl rfl
    · exact .refl s
  · exact .refl s

/-- A move of the clock is not noticed either. -/
theorem told_move (s : Service) (r : Except ClockFault Unit × Clock) :
    s.Told (s.move r).2 [(s.move r).1] [] := by
  have hsilent : s.Told { s with clock := r.2 } [] [] := .silent rfl rfl rfl
  rcases r with ⟨f | _, k⟩
  · exact hsilent.answered rfl rfl
  · exact hsilent.answered rfl rfl

/-- **Every step settles what it owes.** -/
theorem told_step (s : Service) (c : Command) :
    ∃ es, s.Told (s.step c).2 [(s.step c).1] es := by
  cases c with
  | advance d => exact ⟨_, s.told_move _⟩
  | setOffset d => exact ⟨_, s.told_move _⟩
  | failNext =>
    have hsilent : s.Told (s.step .failNext).2 [] [] := .silent rfl rfl rfl
    exact ⟨_, hsilent.answered rfl rfl⟩
  | check domain =>
    have hcheck := s.told_check domain
    simp only [step]
    generalize s.check domain = r at *
    rcases r with ⟨f | a, s'⟩
    · exact ⟨_, hcheck.answered rfl rfl⟩
    · exact ⟨_, hcheck.answered rfl rfl⟩
  | handle m time => exact s.told_handle m time
  | prune => exact s.told_prune
  | send n outcome => exact s.told_sendNow n outcome
  | sendLater n token =>
    obtain ⟨es, h⟩ := s.told_sendLater n token
    exact ⟨es, h.answered rfl rfl⟩
  | cancel token =>
    have hsilent : s.Told (s.step (.cancel token)).2 [] [] := .silent rfl rfl rfl
    exact ⟨_, hsilent.answered rfl rfl⟩
  | shutDown =>
    obtain ⟨es, h⟩ := s.told_shutDown
    exact ⟨es, h.answered rfl rfl⟩
  | turn number =>
    obtain ⟨es, h⟩ := s.told_turn number
    exact ⟨es, h.answered rfl rfl⟩
  | deliver number outcome => exact ⟨_, (s.told_deliver number outcome).answered rfl rfl⟩

/-- **Every run settles what it owes.** -/
theorem told_run (s : Service) (cs : List Command) :
    ∃ es, s.Told (s.after cs) (s.answers cs) es := by
  induction cs generalizing s with
  | nil => exact ⟨[], .refl s⟩
  | cons c cs ih =>
    obtain ⟨es, hstep⟩ := s.told_step c
    obtain ⟨fs, hrest⟩ := ih (s.step c).2
    exact ⟨es ++ fs, hstep.trans hrest⟩

end Service

/-- **Log and counters tell the same story**, at any point of a run of a new service,
whatever its commands are, and up to the counters' wrapping round. As many sends were
sent as there are lines that say so, as many were cancelled as the two lines for that
say together, and as many have failed as there are lines of failures in the background
and direct sends answered with an error. The windows pruned are what the field
`removed` comes to in the lines that report a prune, and the same in the lines that
trace one, none of which has removed more than there were before. And each scope has
as many lines of denials as it has denied filter results. -/
theorem log_and_counters_agree (settings : Settings) (product endpoint : String) (k : Clock)
    (cs : List Command) :
    let s₀ := Service.begin (.ofSettings settings product endpoint) k
    let n := (s₀.after cs).dispatcher.counters
    let log := (s₀.after cs).log
    let answers := s₀.answers cs
    n.sent = .ofNat (LogEvent.lines .debug "pushover notification sent" log) ∧
      n.cancelled = .ofNat (LogEvent.lines .debug "pushover notification cancelled" log
        + LogEvent.lines .debug "dispatcher shut down, dropping notification" log) ∧
      n.failed = .ofNat (LogEvent.lines .error "sending pushover notification" log
        + answers.countP fun a => a.failure? = some .failed) ∧
      n.windowsPruned
        = .ofNat (LogEvent.removals .debug "removed stale notification rate windows" log) ∧
      LogEvent.removals .trace "pruned domain rate windows" log
        = LogEvent.removals .debug "removed stale notification rate windows" log ∧
      (∀ e ∈ log, e.reads .trace "pruned domain rate windows" = true →
        e.number "removed" ≤ e.number "before") ∧
      ∀ scope, log.countP (fun e => e.reads .debug "notification rate limited"
          ∧ e.field? "limit_type" = some scope.label)
        = answers.countP fun a => a.limit? = some scope := by
  intro s₀ n log answers
  obtain ⟨es, htold⟩ := s₀.told_run cs
  obtain rfl : log = es := htold.log
  -- a new service has counted nothing
  have hcounted : ∀ x, n.of x = .ofNat (log.countP (fun e => e.ending? = some x)
      + answers.countP fun a => a.failure? = some x) := by
    intro x
    have hzero : s₀.tally x = 0 := by cases x <;> rfl
    have hending : n.of x = _ := htold.endings x
    rw [hending, hzero, UInt64.zero_add]
  have hanswered : ∀ x, x ≠ .failed → answers.countP (fun a => a.failure? = some x) = 0 :=
    fun x hx => List.countP_eq_zero.2 fun a _ => by simpa using a.failure?_ne hx
  have hsent : n.sent = _ := hcounted .sent
  have hcancelled : n.cancelled = _ := hcounted .cancelled
  have hfailed : n.failed = _ := hcounted .failed
  have hpruned := htold.pruned
  refine ⟨?_, ?_, ?_, ?_, ?_, fun e he hline => ?_, fun scope => ?_⟩
  · rw [hsent, hanswered .sent (by decide), Nat.add_zero, LogEvent.lines_sent]
  · rw [hcancelled, hanswered .cancelled (by decide), Nat.add_zero, LogEvent.lines_cancelled]
  · rw [hfailed, LogEvent.lines_sendFailed]
  · have hzero : s₀.dispatcher.counters.windowsPruned = 0 := rfl
    rw [hzero, UInt64.zero_add] at hpruned
    rw [LogEvent.removals_reported]
    exact hpruned
  · rw [LogEvent.removals_traced, LogEvent.removals_reported, htold.traced]
  · rw [LogEvent.numbers_pruned e hline] at he
    exact htold.before _ _ he
  · rw [LogEvent.lines_limited, htold.limited]

end Herald
