import Herald.Proofs.Delivery.Posts
import Herald.Proofs.Delivery.Reports
/-!
# Giving up is final

A send is given up once the service is shut down or its token has fired, and
neither is ever taken back. So a pending send that is given up stays pending
until its own turn, posts nothing, and ends there as cancelled whatever has come
in for it (`ending_followAll_of_isGivenUp`). After the shutdown this is true of
all of them, what is handed over is cancelled at once, and the only requests
are those of sends that are waited for (`posted_of_isShutDown`). The shutdown
itself is reported by the first command for it and by no other.
-/

namespace Herald

namespace Service

variable {s s' : Service} {c : Command} {cs : List Command} {k : Nat} {p p' : Send}
variable {e : Entry} {l : List Entry}

/-! ## Given up once, given up for good -/

/-- No shutdown is taken back. -/
theorem isShutDown_step (h : s.dispatcher.isShutDown = true) (c : Command) :
    (s.step c).2.dispatcher.isShutDown = true :=
  (s.isShutDown_after [c]).2 (.inl h)

/-- No token is taken back. -/
theorem mem_fired_step {token : String} (h : token ∈ s.fired) (c : Command) :
    token ∈ (s.step c).2.fired := by
  have hmem := (mem_fired_foldl s.standing token [c]).2 (.inl h)
  rwa [← standing_after] at hmem

/-- **What is given up stays given up**, whatever stage it comes to. -/
theorem isGivenUp_step (h : s.isGivenUp p = true) (ht : p'.token = p.token) (c : Command) :
    (s.step c).2.isGivenUp p' = true := by
  simp only [isGivenUp, ht, Bool.or_eq_true, Option.any_eq_true, List.contains_iff_mem] at h ⊢
  rcases h with hshut | ⟨token, htoken, hmem⟩
  · exact .inl (isShutDown_step hshut c)
  · exact .inr ⟨token, htoken, mem_fired_step hmem c⟩

/-- Nothing comes of a background send any more: if it has not ended, it is to
be given up. -/
def IsLost (s : Service) (k : Nat) : Prop :=
  k < s.handedOver ∧ ∀ p, s.pending? k = some p → s.isGivenUp p = true

/-- What is lost stays lost. -/
theorem IsLost.step (h : s.IsLost k) (c : Command) : (s.step c).2.IsLost k :=
  ⟨Nat.lt_of_lt_of_le h.1 (s.handedOver_step c),
    forall_pending?_step h.1 (fun _ _ hgoes hup => isGivenUp_step hup hgoes.token c) h.2 c⟩

/-- **No request is posted for what is lost.** -/
theorem IsLost.ne_of_mem_posted (h : s.IsLost k) {ds : List Command} {r : Request}
    (hr : r ∈ s.posted ds) : r.send ≠ some k := by
  induction ds generalizing s with
  | nil => cases hr
  | cons c ds ih =>
    rcases List.mem_append.1 hr with hr | hr
    · intro hk
      obtain ⟨-, p, hp, hup, -⟩ := turn_of_mem_posts hr hk
      rw [h.2 p hp] at hup
      cases hup
    · exact ih (h.step c) hr

/-! ## The end of a send that is given up -/

/-- The turn of a send that is given up ends it as cancelled. -/
theorem ending_follow_turn (hp : s.pending? k = some p) (hup : s.isGivenUp p = true)
    (he : e.ending = none) (hn : e.number = some k) :
    (e.follow s (s.step (.turn k)).2 (.turn k)).ending = some .cancelled := by
  have hturn : (s.step (.turn k)).2 = s.giveUp p := by simp [step, turn, hp, hup]
  have hgone : (s.giveUp p).pending? k = none := by
    obtain rfl := number_of_pending? hp
    exact pending?_without_self rfl
  have hmoved : s.moved (s.giveUp p) = some .cancelled :=
    moved_of_counts (counts_countCancelled rfl)
  simp [Entry.follow, he, hn, hturn, hgone, hmoved]

/-- **A send that is given up ends as cancelled, at its turn.** -/
theorem ending_followAll_of_isGivenUp (hk : k < s.handedOver) (hp : s.pending? k = some p)
    (hup : s.isGivenUp p = true) (he : e.ending = none) (hn : e.number = some k)
    (ds : List Command) :
    (.turn k ∈ ds → (e.followAll s ds).ending = some .cancelled) ∧
      (.turn k ∉ ds → (e.followAll s ds).ending = none) := by
  -- the entry is open and the send given up until its turn; from then on nothing changes
  induction ds generalizing s p e with
  | nil => exact ⟨fun hmem => absurd hmem List.not_mem_nil, fun _ => he⟩
  | cons c ds ih =>
    by_cases hc : c = .turn k
    · subst hc
      have hend := ending_follow_turn hp hup he hn
      have hstays : (e.followAll s (.turn k :: ds)).ending = some .cancelled := by
        rw [Entry.followAll, Entry.followAll_of_ended (by simp [hend]), hend]
      exact ⟨fun _ => hstays, fun hnot => absurd List.mem_cons_self hnot⟩
    · -- the turn of another send, or no turn at all: this one goes on
      obtain ⟨f, hf, hnext⟩ := (pending?_step hk c).resolve_right fun h => hc h.1
      rw [hp, Option.map_some] at hnext
      have hopen : (e.follow s (s.step c).2 c).ending = none := by
        simp [Entry.follow, he, hn, hnext]
      have hlater := ih (Nat.lt_of_lt_of_le hk (s.handedOver_step c)) hnext
        (isGivenUp_step hup (hf p).token c) hopen (Entry.number_follow.trans hn)
      simpa [Entry.followAll, Ne.symm hc] using hlater

/-- A pending send that is given up is lost. -/
theorem Balanced.isLost (h : s.Balanced cs l) (hp : p ∈ s.pending) (hup : s.isGivenUp p = true) :
    s.IsLost p.number := by
  refine ⟨h.below _ (List.mem_map_of_mem hp), fun p' hp' => ?_⟩
  obtain rfl := Option.some.inj ((h.pending?_of_mem hp).symm.trans hp')
  exact hup

/-- **Its entry waits for its turn**, and is cancelled by it. -/
theorem Balanced.exists_entry (h : s.Balanced cs l) (hp : p ∈ s.pending)
    (hup : s.isGivenUp p = true) (ds : List Command) :
    ∃ (i : Nat) (e : Entry), l[i]? = some (.ofSend p) ∧ (s.bookAll l ds)[i]? = some e ∧
      (Entry.ofSend p).Continues e ∧ (.turn p.number ∈ ds → e.ending = some .cancelled) ∧
      (.turn p.number ∉ ds → e.ending = none) := by
  -- open entries and pending sends are the same, so the send has one
  have hopen : Entry.ofSend p ∈ l.filter Entry.isOpen := h.pending ▸ List.mem_map_of_mem hp
  obtain ⟨i, hi⟩ := List.mem_iff_getElem?.1 (List.mem_filter.1 hopen).1
  obtain ⟨hturned, hwaits⟩ := ending_followAll_of_isGivenUp (e := .ofSend p)
    (h.below _ (List.mem_map_of_mem hp)) (h.pending?_of_mem hp) hup rfl rfl ds
  exact ⟨i, _, hi, s.getElem?_bookAll ds hi, Entry.continues_followAll s _ ds, hturned, hwaits⟩

/-! ## After the shutdown -/

/-- No command changes the request about a notice. -/
theorem request_step (s : Service) (c : Command) (n : Notice) :
    (s.step c).2.dispatcher.request n = s.dispatcher.request n := by
  have h := s.standing_step c
  have hsettings : (s.step c).2.dispatcher.settings = s.dispatcher.settings := by
    have := congrArg Standing.settings h
    cases c <;> exact this
  have hproduct : (s.step c).2.dispatcher.product = s.dispatcher.product := by
    have := congrArg Standing.product h
    cases c <;> exact this
  simp only [Dispatcher.request, hsettings, hproduct, s.endpoint_step c]

theorem directRequest_step (s : Service) (c : Command) :
    (s.step c).2.dispatcher.directRequest = s.dispatcher.directRequest := by
  funext d
  cases d <;> simp [Dispatcher.directRequest, Dispatcher.requestFor, request_step]

/-- After the shutdown everything is given up. -/
theorem isGivenUp_of_isShutDown (h : s.dispatcher.isShutDown = true) (p : Send) :
    s.isGivenUp p = true := by
  simp [isGivenUp, h]

/-- **After the shutdown only sends that are waited for post.** -/
theorem posted_of_isShutDown (h : s.dispatcher.isShutDown = true) (ds : List Command) :
    s.posted ds = ds.filterMap s.dispatcher.directRequest := by
  induction ds generalizing s with
  | nil => rfl
  | cons c ds ih =>
    have hposts : s.posts c = (s.dispatcher.directRequest c).toList := by
      cases c with
      | turn number =>
        simp only [posts, isGivenUp_of_isShutDown h]
        split <;> rfl
      | _ => rfl
    rw [posted, hposts, ih (isShutDown_step h c), directRequest_step]
    cases hd : s.dispatcher.directRequest c with
    | none => rw [List.filterMap_cons_none hd]; rfl
    | some r => rw [List.filterMap_cons_some hd]; rfl

/-- A background send that is handed over after the shutdown is cancelled at
once. -/
theorem ending_enter_of_isShutDown (hshut : s.dispatcher.isShutDown = true) {h : HandOver}
    (hstep : SendStep s c s' (some h)) (hlater : h.outcome = none) :
    (Entry.enter s s' h).ending = some .cancelled := by
  cases hstep with
  | awaited n o x isSend pending handedOver counts due arrival => cases hlater
  | dropped n token shut pending handedOver counts arrival =>
    rw [Balanced.enter_of_counts handedOver counts]
  | handed n token live pending handedOver tally arrival =>
    rw [hshut] at live
    cases live

/-- **Every background send that a run hands over after the shutdown is cancelled.** -/
theorem ledger_of_isShutDown (hshut : s.dispatcher.isShutDown = true) (ds : List Command) :
    List.Forall₂ (fun h e => e.notice = h.notice ∧ e.token = h.token ∧
      (h.outcome = none → e.ending = some .cancelled)) (s.handOvers ds) (s.ledger ds) := by
  induction ds generalizing s with
  | nil => exact .nil
  | cons c ds ih =>
    have hrest := ih (isShutDown_step hshut c)
    have hledger : s.ledger (c :: ds) = _ := (s.step c).2.bookAll_eq (s.book c []) ds
    have hstep := s.sendStep c
    rw [hledger, handOvers, book]
    cases hof : HandOver.of? c (s.step c).1 with
    | none => simpa [hof] using hrest
    | some h =>
      rw [hof] at hstep
      have hgoes := Entry.continues_followAll (s.step c).2 (.enter s (s.step c).2 h) ds
      refine .cons ⟨hgoes.notice.trans Entry.notice_enter, hgoes.token.trans Entry.token_enter,
        fun hlater => ?_⟩ hrest
      have hend := ending_enter_of_isShutDown hshut hstep hlater
      exact (congrArg Entry.ending (hgoes.ended (by simp [hend]))).trans hend

end Service

/-- **Giving up is final.** A run of a new service is cut in two. A send that is
pending in between, and is given up because the first part has the shutdown or
fires its token, posts nothing in the second part, and nothing at all if it is
still queued; it ends as cancelled at its turn, and not before. If the first
part has the shutdown, the service stays shut down; the second part posts for
its sends that are waited for and for nothing else, and every other notice it
hands over is cancelled at once. The shutdown is reported by one line, if it has
come at all. And what the ledger calls cancelled is what the counter of the
cancelled counts. -/
theorem giving_up_is_final (settings : Settings) (product endpoint : String) (clock : Clock)
    (cs ds : List Command) :
    let s₀ := Service.begin (.ofSettings settings product endpoint) clock
    let s := s₀.after cs
    let s' := s₀.after (cs ++ ds)
    let l := s₀.ledger cs
    let l' := s₀.ledger (cs ++ ds)
    let lines := s.log.countP fun e =>
      e.level = .info ∧ e.message = "shutting down pushover dispatcher"
    (∀ p ∈ s.pending,
        (.shutDown ∈ cs ∨ ∃ token, p.token = some token ∧ .cancel token ∈ cs) →
      (∃ posted, s'.requests = s.requests ++ posted ∧ ∀ r ∈ posted, r.send ≠ some p.number) ∧
      (p.stage = .queued → ∀ r ∈ s'.requests, r.send ≠ some p.number) ∧
      ∃ (i : Nat) (e : Entry), l[i]? = some (.ofSend p) ∧ l'[i]? = some e ∧
        (Entry.ofSend p).Continues e ∧ (.turn p.number ∈ ds → e.ending = some .cancelled) ∧
        (.turn p.number ∉ ds → e.ending = none)) ∧
    (.shutDown ∈ cs →
      s'.dispatcher.isShutDown = true ∧
      s'.requests = s.requests ++ ds.filterMap s.dispatcher.directRequest ∧
      List.Forall₂ (fun h e => e.notice = h.notice ∧ e.token = h.token ∧
        (h.outcome = none → e.ending = some .cancelled)) (s.handOvers ds) (l'.drop l.length)) ∧
    (.shutDown ∈ cs → lines = 1) ∧ (.shutDown ∉ cs → lines = 0) ∧
    ∀ x, s'.tally x = .ofNat (l'.countP fun e => e.ending = some x) := by
  intro s₀ s s' l l' lines
  have hbalanced : s.Balanced cs l := Service.Balanced.after settings product endpoint clock cs
  have hsplit : s' = s.after ds := s₀.after_append cs ds
  have hledger : l' = s.bookAll l ds := s₀.bookAll_append [] cs ds
  have hrequests : s'.requests = s.requests ++ s.posted ds := by rw [hsplit, s.requests_after]
  have hshut : s.dispatcher.isShutDown = true ↔ .shutDown ∈ cs :=
    (s₀.isShutDown_after cs).trans (or_iff_right Bool.false_ne_true)
  have hlines : lines = if s.dispatcher.isShutDown then 1 else 0 :=
    s.shutDownReports_eq.symm.trans (Service.shutDownReports_after rfl clock cs)
  refine ⟨fun p hp hgiven => ?_, fun hmem => ?_, fun hmem => ?_, fun hnot => ?_,
    (Service.Balanced.after settings product endpoint clock (cs ++ ds)).tally⟩
  · have hup : s.isGivenUp p = true := (Service.isGivenUp_after rfl clock cs p).2 hgiven
    have hsilent : ∀ r ∈ s.posted ds, r.send ≠ some p.number := fun r =>
      (hbalanced.isLost hp hup).ne_of_mem_posted
    refine ⟨⟨_, hrequests, hsilent⟩, fun hq r hr hk => ?_,
      hledger ▸ hbalanced.exists_entry hp hup ds⟩
    -- up to here the send was in the queue, and from here on it is lost
    rcases List.mem_append.1 (hrequests ▸ hr) with hr | hr
    · have hleft : s.HasLeftQueue p.number :=
        Service.hasLeftQueue_of_mem_requests settings product endpoint clock cs r hr _ hk
      exact hleft.2 p (hbalanced.pending?_of_mem hp) hq
    · exact hsilent r hr hk
  · have hdown := hshut.2 hmem
    have hdrop : l'.drop l.length = s.ledger ds := by
      rw [hledger, Service.bookAll_eq, List.drop_left' (by simp)]
    rw [hdrop, hrequests, Service.posted_of_isShutDown hdown, hsplit]
    exact ⟨(s.isShutDown_after ds).2 (.inl hdown), rfl, Service.ledger_of_isShutDown hdown ds⟩
  · rw [hlines, if_pos (hshut.2 hmem)]
  · rw [hlines, if_neg (mt hshut.1 hnot)]

/-- A run in which one send is cancelled in the queue and one is out when the
shutdown comes; the outcome of that one, a further send and one that is waited
for come after it. -/
theorem giving_up_is_final_past_an_answer :
    let n : Notice := ⟨"a", "r", .filteredBlockList, .v4 127 0 0 1, none,
      ⟨0, 0, by decide, by decide, by decide⟩⟩
    let s₀ := Service.begin (.ofSettings .default "" "http://[::1]/") .fresh
    let cs : List Command := [.sendLater n (some "t"), .sendLater n none, .turn 1, .cancel "t",
      .shutDown, .shutDown]
    let ds : List Command := [.deliver 1 (.status 200), .sendLater n none, .turn 0, .turn 1,
      .send n (.status 200)]
    (s₀.ledger (cs ++ ds)).map Entry.ending
        = [some .cancelled, some .cancelled, some .cancelled, some .sent] ∧
      (s₀.after (cs ++ ds)).requests
        = (s₀.after cs).requests ++ ds.filterMap (s₀.after cs).dispatcher.directRequest ∧
      ((s₀.after cs).log.countP fun e =>
        e.level = .info ∧ e.message = "shutting down pushover dispatcher") = 1 := by
  intro n s₀ cs ds
  obtain ⟨-, hdown, honce, -⟩ := giving_up_is_final .default "" "http://[::1]/" .fresh cs ds
  have hmem : .shutDown ∈ cs := by simp [cs]
  exact ⟨by decide +kernel, (hdown hmem).2.1, honce hmem⟩

end Herald
