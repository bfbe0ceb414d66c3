import Herald.Proofs.Delivery.Finality
import Herald.Proofs.Dispatch.Reckoning
import Herald.Proofs.Dispatch.Rules
import Herald.Proofs.Push.Lossless
/-!
# From a match to its request

In a run whose only sends are those of filter results, what is posted can be traced
back. A filter result that is answered as dispatched is handed over, unless the
service is shut down, and gets the next number; so the numbers of the background
sends count the dispatched filter results (`FromMatches`). A send keeps its number
and its notice until it has posted, and posts once. So every request is the one of
a filter result of its own, and says what that one said.
-/

namespace Herald

/-- Whether a command is a send of its own. -/
def Command.isSend : Command → Bool
  | .send _ _ | .sendLater _ _ => true
  | _ => false

/-- The filter result that a command was, with its time, if it is answered as
dispatched. -/
def Command.dispatch? : Command → Answer → Option (RuleMatch × Timestamp)
  | .handle m time, .matched .dispatched => some (m, time)
  | _, _ => none

/-- The client of a filter result as a message has it: the name with the address in
brackets behind it, or the address alone if there is no name or an empty one. -/
def RuleMatch.client (m : RuleMatch) : String :=
  let address := String.ofList m.clientAddress.text
  match m.clientName with
  | none => address
  | some name => if name = "" then address else name ++ " (" ++ address ++ ")"

/-- The title of a message about a filter result: the product's name, and what became of
the domain. -/
def RuleMatch.title (product : String) (m : RuleMatch) : String :=
  match m.reason with
  | .filteredBlockList => product ++ ": Domain Blocked"
  | .notFilteredAllowList => product ++ ": Domain Allowed"
  | .rewritten | .rewrittenRule => product ++ ": Domain Rewritten"
  | _ => product ++ ": Custom Rule Match"

/-- **The message about a filter result**: the credentials, the priority and the sound
of the settings, the title, and a line each for the host, the client and the time. No
rule is part of it. -/
def RuleMatch.message (settings : Settings) (product : String) (m : RuleMatch)
    (time : Timestamp) : PushMessage where
  token := settings.appToken
  user := settings.userKey
  title := m.title product
  body := "Domain: " ++ m.host ++ "\nClient: " ++ m.client ++ "\nTime: "
    ++ String.ofList time.text
  priority := settings.priority
  sound := settings.sound

/-- **The notice about a filter result** makes that message, whatever its rule is. -/
theorem PushMessage.ofNotice_noticeOf (settings : Settings) (product : String) (m : RuleMatch)
    (rule : String) (time : Timestamp) :
    ofNotice settings product (Service.noticeOf m rule time) = m.message settings product time := by
  have hclient : (Service.noticeOf m rule time).clientText = m.client.toList := by
    have hopen : " (".toList = [' ', '('] := by decide
    have hclose : ")".toList = [')'] := by decide
    simp only [Notice.clientText, Service.noticeOf, RuleMatch.client]
    rcases m.clientName with _ | name
    · exact String.toList_ofList.symm
    · by_cases hname : name = ""
      · simp only [if_pos hname, String.toList_ofList]
      · simp only [if_neg hname, String.toList_append, String.toList_ofList, hopen, hclose,
          List.append_assoc, List.cons_append, List.nil_append]
  have hbody : (Service.noticeOf m rule time).body
      = "Domain: " ++ m.host ++ "\nClient: " ++ m.client ++ "\nTime: "
        ++ String.ofList time.text := by
    unfold Notice.body Notice.bodyText
    generalize "Domain: " = domain, "\nClient: " = client, "\nTime: " = line
    simp only [hclient, String.ofList_append, String.ofList_toList]
    rfl
  have htitle : (Service.noticeOf m rule time).title product = m.title product := by
    have hparts : ∀ headline : String, product ++ (": " ++ headline) = product ++ ": " ++ headline :=
      fun headline => String.append_assoc.symm
    unfold Notice.title RuleMatch.title
    rw [Service.noticeOf]
    cases m.reason <;> exact (hparts _).symm
  rw [ofNotice, hbody, htitle]
  rfl

/-- A request goes to the address that was configured. -/
theorem Dispatcher.endpoint_of_request {d : Dispatcher} {n : Notice} {e : Endpoint} {body : String}
    (h : d.request n = .ok (e, body)) : Endpoint.ofText d.endpoint = .ok e := by
  rw [request] at h
  split at h
  · cases h
  · next e' he =>
    obtain ⟨rfl, -⟩ := Prod.mk.inj (Except.ok.inj h)
    exact he

namespace Service

variable {s : Service} {c : Command}

/-- **The filter results of a run that were dispatched**, in order. -/
def dispatched (s : Service) : List Command → List (RuleMatch × Timestamp)
  | [] => []
  | c :: cs => (c.dispatch? (s.step c).1).toList ++ (s.step c).2.dispatched cs

/-- The last command of a run. -/
theorem dispatched_concat (s : Service) (cs : List Command) (c : Command) :
    s.dispatched (cs ++ [c])
      = s.dispatched cs ++ (c.dispatch? ((s.after cs).step c).1).toList := by
  induction cs generalizing s with
  | nil => simp [dispatched]
  | cons d cs ih => rw [List.cons_append, dispatched, ih, dispatched, after_cons, List.append_assoc]

/-! ## What is handed over and what is posted -/

/-- Where a command is no send, what is handed over is the notice of a filter result
that is dispatched. -/
theorem handOver_cases (hc : c.isSend = false) (s : Service) :
    HandOver.of? c (s.step c).1 = none ∧ c.dispatch? (s.step c).1 = none ∨
      ∃ m rule time, HandOver.of? c (s.step c).1 = some ⟨noticeOf m rule time, none, none⟩ ∧
        c.dispatch? (s.step c).1 = some (m, time) := by
  cases c with
  | handle m time =>
    have hcases := s.handle_cases m time
    rw [step]
    generalize s.handle m time = r at *
    obtain ⟨a, s'⟩ := r
    cases hcases with
    | noRules empty => exact .inl ⟨rfl, rfl⟩
    | fault f went => exact .inl ⟨rfl, rfl⟩
    | rateLimited scope went => exact .inl ⟨rfl, rfl⟩
    | dispatched rule first went =>
      refine .inr ⟨m, rule, time, ?_, rfl⟩
      simp [HandOver.of?, first]
  | send n outcome => cases hc
  | sendLater n token => cases hc
  | _ => exact .inl ⟨rfl, rfl⟩

/-- **What a command posts**, where it is no send: nothing, or the request of a
queued send. -/
theorem posts_cases (hc : c.isSend = false) (s : Service) :
    s.posts c = [] ∨ ∃ p e body, s.pending? p.number = some p ∧ p.stage = .queued ∧
      s.dispatcher.request p.notice = .ok (e, body) ∧
      s.posts c = [⟨some p.number, e, body⟩] := by
  cases c with
  | turn number =>
    rw [posts]
    split
    · next p hp =>
      split
      · next hgo =>
        rcases hrequest : s.dispatcher.request p.notice with f | ⟨e, body⟩
        · exact .inl (by simp [Dispatcher.requestFor, hrequest, Except.toOption])
        · obtain rfl := number_of_pending? hp
          exact .inr ⟨p, e, body, hp, hgo.2, hrequest,
            by simp [Dispatcher.requestFor, hrequest, Except.toOption]⟩
      · exact .inl rfl
    · exact .inl rfl
  | send n outcome => cases hc
  | sendLater n token => cases hc
  | _ => exact .inl rfl

/-- No step changes what messages are made with. -/
theorem settings_step (s : Service) (c : Command) :
    (s.step c).2.dispatcher.settings = s.dispatcher.settings
      ∧ (s.step c).2.dispatcher.product = s.dispatcher.product := by
  have h := s.standing_step c
  cases c <;> exact ⟨congrArg Standing.settings h, congrArg Standing.product h⟩

/-- No run changes what messages are made with. -/
theorem settings_after (s : Service) (cs : List Command) :
    (s.after cs).dispatcher.settings = s.dispatcher.settings
      ∧ (s.after cs).dispatcher.product = s.dispatcher.product :=
  invariant_after
    (P := fun s' => s'.dispatcher.settings = s.dispatcher.settings
      ∧ s'.dispatcher.product = s.dispatcher.product)
    ⟨rfl, rfl⟩
    (fun s' c h => ⟨(s'.settings_step c).1.trans h.1, (s'.settings_step c).2.trans h.2⟩) cs

/-! ## From filter results to requests -/

/-- A pending send is that of a dispatched filter result, by its number. -/
def TracedTo (l : List (RuleMatch × Timestamp)) (p : Send) : Prop :=
  ∃ m rule time, l[p.number]? = some (m, time) ∧ p.notice = noticeOf m rule time

/-- A send that is traced stays so when more filter results are dispatched. -/
theorem TracedTo.append {l : List (RuleMatch × Timestamp)} {p : Send} (h : TracedTo l p)
    (l' : List (RuleMatch × Timestamp)) : TracedTo (l ++ l') p := by
  obtain ⟨m, rule, time, hget, hnotice⟩ := h
  have hlt : p.number < l.length := (List.getElem?_eq_some_iff.1 hget).1
  exact ⟨m, rule, time, by rwa [List.getElem?_append_left hlt], hnotice⟩

/-- A request is that of a dispatched filter result: it has the number of one, goes
to the address that was configured and says what the message about that one says. -/
def IsRequestOf (d : Dispatcher) (l : List (RuleMatch × Timestamp)) (r : Request) : Prop :=
  ∃ number m time, r.send = some number ∧ l[number]? = some (m, time) ∧
    Endpoint.ofText d.endpoint = .ok r.endpoint ∧
    r.body = Form.encode (m.message d.settings d.product time).fields

/-- A request that is traced stays so when more filter results are dispatched, by a dispatcher of
the same settings. -/
theorem IsRequestOf.append {d e : Dispatcher} {l : List (RuleMatch × Timestamp)} {r : Request}
    (h : IsRequestOf d l r) (hendpoint : e.endpoint = d.endpoint) (hsettings : e.settings = d.settings)
    (hproduct : e.product = d.product) (l' : List (RuleMatch × Timestamp)) :
    IsRequestOf e (l ++ l') r := by
  obtain ⟨number, m, time, hsend, hget, hto, hbody⟩ := h
  have hlt : number < l.length := (List.getElem?_eq_some_iff.1 hget).1
  unfold IsRequestOf
  rw [hendpoint, hsettings, hproduct]
  exact ⟨number, m, time, hsend, by rwa [List.getElem?_append_left hlt], hto, hbody⟩

/-- **What holds of a service and the filter results dispatched so far.** -/
structure FromMatches (s : Service) (l : List (RuleMatch × Timestamp)) : Prop where
  /-- Each has the next number, until the shutdown. -/
  handedOver : s.dispatcher.isShutDown = false → s.handedOver = l.length
  pending : ∀ p ∈ s.pending, TracedTo l p
  requests : ∀ r ∈ s.requests, IsRequestOf s.dispatcher l r
  /-- No two requests are of the same one. -/
  unique : (s.requests.map Request.send).Nodup

namespace FromMatches

variable {l : List (RuleMatch × Timestamp)}

/-- A service that has not done anything has nothing to trace. -/
theorem begin_nil (settings : Settings) (product endpoint : String) (k : Clock) :
    (begin (.ofSettings settings product endpoint) k).FromMatches [] where
  handedOver _ := rfl
  pending _ hp := nomatch hp
  requests _ hr := nomatch hr
  unique := .nil

/-- A change of stage changes neither number nor notice. -/
theorem tracedTo_of_mem_setStage (h : s.FromMatches l) {number : Nat} {stage : Stage} {p : Send}
    (hp : p ∈ s.setStage number stage) : TracedTo l p := by
  obtain ⟨q, hq, rfl⟩ := List.mem_map.1 hp
  have htraced := h.pending q hq
  split
  · exact htraced
  · exact htraced

/-- **What a step does to the sends keeps them traced.** -/
theorem sends_step (h : s.FromMatches l) (hc : c.isSend = false) :
    let l' := l ++ (c.dispatch? (s.step c).1).toList
    ((s.step c).2.dispatcher.isShutDown = false → (s.step c).2.handedOver = l'.length) ∧
      ∀ p ∈ (s.step c).2.pending, TracedTo l' p := by
  intro l'
  have hstep := s.sendStep c
  -- who is up after the step was up before it
  have hlive : (s.step c).2.dispatcher.isShutDown = false → s.dispatcher.isShutDown = false := by
    intro hlive
    by_contra hshut
    rw [isShutDown_step (by simpa using hshut) c] at hlive
    cases hlive
  have hsame : (s.step c).2.handedOver = s.handedOver →
      (s.step c).2.dispatcher.isShutDown = false → (s.step c).2.handedOver = l.length :=
    fun heq hup => heq.trans (h.handedOver (hlive hup))
  rcases s.handOver_cases hc with ⟨hnone, hdispatch⟩ | ⟨m, rule, time, hsome, hdispatch⟩
  · have hl : l' = l := by simp [l', hdispatch]
    rw [hl]
    rw [hnone] at hstep
    generalize (s.step c).2 = s' at *
    cases hstep with
    | idle pending handedOver tally arrival =>
      exact ⟨hsame handedOver, pending ▸ h.pending⟩
    | posted p found queued pending handedOver tally arrival =>
      refine ⟨hsame handedOver, fun q hq => ?_⟩
      rw [pending] at hq
      exact h.tracedTo_of_mem_setStage hq
    | answered p o isDeliver pending handedOver tally arrival =>
      refine ⟨hsame handedOver, fun q hq => ?_⟩
      rw [pending] at hq
      exact h.tracedTo_of_mem_setStage hq
    | ended p x isTurn found pending handedOver counts due arrival =>
      refine ⟨hsame handedOver, fun q hq => ?_⟩
      rw [pending] at hq
      exact h.pending q (List.mem_filter.1 hq).1
  · have hl : l' = l ++ [(m, time)] := by simp [l', hdispatch]
    rw [hl]
    rw [hsome] at hstep
    generalize (s.step c).2 = s' at *
    cases hstep with
    | dropped n token shut pending handedOver counts arrival =>
      refine ⟨fun hup => ?_, fun q hq => ?_⟩
      · rw [hlive hup] at shut
        cases shut
      · rw [pending] at hq
        exact (h.pending q hq).append _
    | handed n token live pending handedOver tally arrival =>
      have hnumber := h.handedOver live
      refine ⟨fun _ => by simp [handedOver, hnumber], fun q hq => ?_⟩
      rw [pending, List.mem_append, List.mem_singleton] at hq
      rcases hq with hq | rfl
      · exact (h.pending q hq).append _
      · -- the new send has the number of the filter result that was just dispatched
        exact ⟨m, rule, time, by simp [hnumber], rfl⟩

/-- **What a step posts is the request of a filter result**, and of one that has not
posted before. -/
theorem requests_step (h : s.FromMatches l) (hc : c.isSend = false)
    (hleft : ∀ r ∈ s.requests, ∀ k, r.send = some k → s.HasLeftQueue k) :
    (∀ r ∈ (s.step c).2.requests, IsRequestOf s.dispatcher l r) ∧
      ((s.step c).2.requests.map Request.send).Nodup := by
  rw [Service.requests_step]
  rcases s.posts_cases hc with hnone | ⟨p, e, body, hp, hqueued, hrequest, hone⟩
  · rw [hnone, List.append_nil]
    exact ⟨h.requests, h.unique⟩
  · rw [hone]
    refine ⟨fun r hr => ?_, ?_⟩
    · rcases List.mem_append.1 hr with hr | hr
      · exact h.requests r hr
      · obtain rfl := List.mem_singleton.1 hr
        obtain ⟨m, rule, time, hget, hnotice⟩ := h.pending p (mem_of_pending? hp)
        refine ⟨p.number, m, time, rfl, hget, Dispatcher.endpoint_of_request hrequest, ?_⟩
        have hbody := Dispatcher.body_of_request hrequest
        rwa [hnotice, PushMessage.ofNotice_noticeOf] at hbody
    · rw [List.map_append, List.map_singleton]
      -- what has posted has left the queue, and this send is still in it
      refine List.nodup_append.2 ⟨h.unique, List.nodup_singleton _, fun a ha b hb => ?_⟩
      obtain rfl := List.mem_singleton.1 hb
      rintro rfl
      obtain ⟨r, hr, hsend⟩ := List.mem_map.1 ha
      exact (hleft r hr p.number hsend).2 p hp hqueued

/-- **Every step keeps sends and requests traced**, where it is no send of its own. -/
theorem step (h : s.FromMatches l) (hc : c.isSend = false)
    (hleft : ∀ r ∈ s.requests, ∀ k, r.send = some k → s.HasLeftQueue k) :
    (s.step c).2.FromMatches (l ++ (c.dispatch? (s.step c).1).toList) := by
  obtain ⟨hhanded, hpending⟩ := h.sends_step hc
  obtain ⟨hrequests, hunique⟩ := h.requests_step hc hleft
  obtain ⟨hsettings, hproduct⟩ := s.settings_step c
  exact ⟨hhanded, hpending,
    fun r hr => (hrequests r hr).append (s.endpoint_step c) hsettings hproduct _, hunique⟩

/-- **A run without sends of its own keeps sends and requests traced.** -/
theorem after (settings : Settings) (product endpoint : String) (k : Clock) {cs : List Command}
    (hsends : ∀ c ∈ cs, c.isSend = false) :
    let s₀ := begin (.ofSettings settings product endpoint) k
    (s₀.after cs).FromMatches (s₀.dispatched cs) := by
  intro s₀
  induction cs using List.reverseRecOn with
  | nil => exact begin_nil settings product endpoint k
  | append_singleton cs c ih =>
    obtain ⟨hbefore, hlast⟩ := List.forall_mem_append.1 hsends
    rw [after_concat, dispatched_concat]
    exact (ih hbefore).step (hlast c List.mem_cons_self)
      (hasLeftQueue_of_mem_requests settings product endpoint k cs)

end FromMatches

end Service

end Herald
