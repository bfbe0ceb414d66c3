import Herald.Dispatch.Printed
import Herald.Proofs.Delivery.Matches
import Herald.Proofs.Settings.Printed
/-!
# Where the credentials go

A dispatcher reads its settings in one place, when it makes the body of a
request; the rates were read when it was made. So a service under other settings
does and says what it did and said, and only what it posts is another thing:
that is `step_under`, whatever the settings, and `run_under`. Where the settings
differ in the credentials alone, what is posted differs in two fields alone
(`requests_under`), and the printed forms not at all.
-/

namespace Herald

/-- **Requests that are alike but for the credentials**: of two settings, in the
values of the first two fields. -/
structure Request.AlikeButCredentials (s t : Settings) (r r' : Request) : Prop where
  send : r'.send = r.send
  endpoint : r'.endpoint = r.endpoint
  body : ∃ fields,
    r.body = Form.encode (("token", s.appToken) :: ("user", s.userKey) :: fields) ∧
    r'.body = Form.encode (("token", t.appToken) :: ("user", t.userKey) :: fields)

/-- A dispatcher under other settings, in the state it is in. -/
def Dispatcher.under (d : Dispatcher) (t : Settings) : Dispatcher := { d with settings := t }

/-- A service under other settings, having posted other requests. -/
def Service.under (s : Service) (t : Settings) (posted : List Request) : Service :=
  { s with dispatcher := s.dispatcher.under t, requests := posted }

/-- **Services that are alike but for the credentials**: under two settings that are,
in the requests they have posted. -/
structure Service.AlikeButCredentials (s s' : Service) : Prop where
  settings : s.dispatcher.settings.AlikeButCredentials s'.dispatcher.settings
  otherwise : s' = s.under s'.dispatcher.settings s'.requests
  requests : List.Forall₂
    (Request.AlikeButCredentials s.dispatcher.settings s'.dispatcher.settings)
    s.requests s'.requests

namespace Dispatcher

variable {d : Dispatcher}

/-! ## Operations of the dispatcher -/

/-- A check asks the gates, not the settings. -/
theorem checkAt_under (d : Dispatcher) (t : Settings) (domain : String) (now : Moment) :
    (d.under t).checkAt domain now
      = ((d.checkAt domain now).1, (d.checkAt domain now).2.under t) := by
  by_cases hpass : (d.globalGate.check now).1 = true
  · by_cases hadmit : (d.domainGate.check domain now).1 = true <;>
      simp [checkAt, passGlobal, passDomain, noteGlobal, noteDomain, under, hpass, hadmit]
  · simp [checkAt, passGlobal, noteGlobal, under, hpass]

theorem check_under (d : Dispatcher) (t : Settings) (domain : String) (c : Clock) :
    (d.under t).check domain c
      = ((d.check domain c).1, (d.check domain c).2.1.under t, (d.check domain c).2.2) := by
  simp only [check_eq, checkAt_under]
  rcases c.read with ⟨_ | _, _⟩ <;> rfl

/-- A prune does not ask the settings either. -/
theorem prune_under (d : Dispatcher) (t : Settings) (c : Clock) :
    (d.under t).prune c = ((d.prune c).1, (d.prune c).2.1.under t, (d.prune c).2.2) := by
  simp only [prune_eq]
  rcases c.read with ⟨f | now, k⟩
  · rfl
  · by_cases hr : (d.domainGate.prune now).1 = 0 <;> simp [pruneAt, notePrune, under, hr]

/-- What the end of a send counts and tells does not depend on the settings. -/
theorem concludeSend_under (d : Dispatcher) (t : Settings) (n : Notice)
    (r : Except SendError Unit) :
    (d.under t).concludeSend n r = ((d.concludeSend n r).1, (d.concludeSend n r).2.under t) := by
  cases r <;> rfl

/-- The shutdown does not ask the settings. -/
theorem shutDown_under (d : Dispatcher) (t : Settings) :
    (d.under t).shutDown = (d.shutDown.1, d.shutDown.2.under t) := by
  cases h : d.isShutDown <;> simp [shutDown, under, h]

/-- Whether a request can be made does not depend on the settings either; only its
body does. -/
theorem request_under (d : Dispatcher) (t : Settings) (n : Notice) :
    (d.under t).request n = (d.request n).map fun r =>
      (r.1, Form.encode (PushMessage.ofNotice t d.product n).fields) := by
  simp only [request, under]
  cases Endpoint.ofText d.endpoint <;> rfl

end Dispatcher

namespace Service

variable {s : Service} {c : Command}

/-! ## A step under other settings -/

/-- Reports are the same. -/
theorem report_under (s : Service) (t : Settings) (rs : List Request) (es : List LogEvent) :
    (s.under t rs).report es = (s.report es).under t rs := rfl

theorem move_under (s : Service) (t : Settings) (rs : List Request)
    (r : Except ClockFault Unit × Clock) :
    (s.under t rs).move r = ((s.move r).1, (s.move r).2.under t rs) := by
  rcases r with ⟨_ | _, _⟩ <;> rfl

theorem check_under (s : Service) (t : Settings) (rs : List Request) (domain : String) :
    (s.under t rs).check domain = ((s.check domain).1, (s.check domain).2.under t rs) := by
  simp only [check, under, Dispatcher.check_under]

theorem sendLater_under (s : Service) (t : Settings) (rs : List Request) (n : Notice)
    (token : Option String) :
    (s.under t rs).sendLater n token = (s.sendLater n token).under t rs := by
  have hshut : (s.under t rs).dispatcher.isShutDown = s.dispatcher.isShutDown := rfl
  simp only [sendLater, hshut]
  split <;> rfl

theorem handle_under (s : Service) (t : Settings) (rs : List Request) (m : RuleMatch)
    (time : Timestamp) :
    (s.under t rs).handle m time = ((s.handle m time).1, (s.handle m time).2.under t rs) := by
  rcases hrules : m.rules with _ | ⟨rule, rest⟩
  · simp only [handle, hrules]
  · simp only [handle, hrules, check_under]
    rcases s.check m.host with ⟨f | _ | scope, s'⟩
    · rfl
    · simp only [report_under, sendLater_under]
    · rfl

theorem step_prune_under (s : Service) (t : Settings) (rs : List Request) :
    (s.under t rs).step .prune = ((s.step .prune).1, (s.step .prune).2.under t rs) := by
  have hprune := s.dispatcher.prune_under t s.clock
  simp only [step, prune, under, hprune]
  rcases s.dispatcher.prune s.clock with ⟨f | ⟨n, es⟩, d, k⟩ <;> rfl

theorem shutDown_under (s : Service) (t : Settings) (rs : List Request) :
    (s.under t rs).shutDown = s.shutDown.under t rs := by
  simp only [shutDown, under, Dispatcher.shutDown_under]
  rfl

theorem deliver_under (s : Service) (t : Settings) (rs : List Request) (number : Nat)
    (o : Outcome) : (s.under t rs).deliver number o = (s.deliver number o).under t rs := by
  have hpending : (s.under t rs).pending? number = s.pending? number := rfl
  simp only [deliver, hpending]
  split
  · split <;> rfl
  · rfl

theorem giveUp_under (s : Service) (t : Settings) (rs : List Request) (p : Send) :
    (s.under t rs).giveUp p = (s.giveUp p).under t rs := rfl

theorem finish_under (s : Service) (t : Settings) (rs : List Request) (p : Send)
    (r : Except SendError Unit) :
    (s.under t rs).finish p r = (s.finish p r).under t rs := by
  have hconclude := s.dispatcher.concludeSend_under t p.notice r
  simp only [finish, under, hconclude]
  rfl

/-- A send that is waited for ends the same, whatever its request says. -/
theorem sendNow_under (s : Service) (t : Settings) (rs : List Request) (n : Notice)
    (o : Outcome) :
    ∃ rs', (s.under t rs).sendNow n o = ((s.sendNow n o).1, (s.sendNow n o).2.under t rs') := by
  have hrequest := s.dispatcher.request_under t n
  have hconclude := s.dispatcher.concludeSend_under t n
  simp only [sendNow, under, hrequest, hconclude]
  rcases s.dispatcher.request n with e | ⟨endpoint, body⟩
  · exact ⟨rs, rfl⟩
  · exact ⟨_, rfl⟩

/-- A turn of a background send goes the same, whatever its request says. -/
theorem turn_under (s : Service) (t : Settings) (rs : List Request) (number : Nat) :
    ∃ rs', (s.under t rs).turn number = (s.turn number).under t rs' := by
  have hpending : (s.under t rs).pending? number = s.pending? number := rfl
  have hup : ∀ p, (s.under t rs).isGivenUp p = s.isGivenUp p := fun _ => rfl
  simp only [turn, hpending, hup]
  rcases s.pending? number with _ | p
  · exact ⟨rs, rfl⟩
  · have hrequest : (s.under t rs).dispatcher.request p.notice = _ :=
      s.dispatcher.request_under t p.notice
    simp only [hrequest]
    split
    · exact ⟨rs, s.giveUp_under t rs p⟩
    · rcases s.dispatcher.request p.notice with e | ⟨endpoint, body⟩
      · exact ⟨rs, s.finish_under t rs p _⟩
      · rcases p.stage with _ | _ | o
        · exact ⟨_, rfl⟩
        · exact ⟨rs, rfl⟩
        · exact ⟨rs, s.finish_under t rs p _⟩

/-- **A step under other settings** is answered the same and does the same, but for
what it posts. -/
theorem step_under (s : Service) (t : Settings) (rs : List Request) (c : Command) :
    ∃ rs', (s.under t rs).step c = ((s.step c).1, (s.step c).2.under t rs') := by
  cases c with
  | advance d => exact ⟨rs, s.move_under t rs _⟩
  | setOffset d => exact ⟨rs, s.move_under t rs _⟩
  | failNext => exact ⟨rs, rfl⟩
  | check domain =>
    refine ⟨rs, ?_⟩
    simp only [step, check_under]
    rcases s.check domain with ⟨_ | _, _⟩ <;> rfl
  | handle m time => exact ⟨rs, s.handle_under t rs m time⟩
  | prune => exact ⟨rs, s.step_prune_under t rs⟩
  | send n outcome =>
    obtain ⟨rs', hsend⟩ := s.sendNow_under t rs n outcome
    exact ⟨rs', by simp only [step, hsend]⟩
  | sendLater n token => exact ⟨rs, by simp only [step, sendLater_under]⟩
  | cancel token => exact ⟨rs, rfl⟩
  | shutDown => exact ⟨rs, by simp only [step, shutDown_under]⟩
  | turn number =>
    obtain ⟨rs', hturn⟩ := s.turn_under t rs number
    exact ⟨rs', by simp only [step, hturn]⟩
  | deliver number outcome => exact ⟨rs, by simp only [step, deliver_under]⟩

/-- **A run under other settings** is answered the same and does the same, but for what it posts. -/
theorem run_under (s : Service) (t : Settings) (rs : List Request) (cs : List Command) :
    ∃ rs', (s.under t rs).run cs = ((s.run cs).1, (s.run cs).2.under t rs') := by
  induction cs generalizing s rs with
  | nil => exact ⟨rs, rfl⟩
  | cons c cs ih =>
    obtain ⟨rs₁, hstep⟩ := s.step_under t rs c
    obtain ⟨rs', hrun⟩ := ih (s.step c).2 rs₁
    exact ⟨rs', by simp only [run, hstep, hrun]⟩

end Service

/-! ## Starting -/

/-- Starting tells the spacings, which are those of the rates. -/
theorem Dispatcher.start_under {s t : Settings} (h : s.AlikeButCredentials t) :
    start t = ((start s).1.map (·.under t), (start s).2) := by
  simp only [start, h.enabled]
  split
  · simp only [ofSettings, under, domainSpacing, globalSpacing, h.domainRate, h.globalRate,
      Option.map_some]
  · rfl

/-! ## What is posted -/

/-- The fields of a message about a notice are the two credentials and then others,
which are the same where the settings are alike. -/
theorem PushMessage.fields_ofNotice {s t : Settings} (h : s.AlikeButCredentials t)
    (product : String) (n : Notice) :
    ∃ fields,
      (ofNotice s product n).fields = ("token", s.appToken) :: ("user", s.userKey) :: fields ∧
      (ofNotice t product n).fields = ("token", t.appToken) :: ("user", t.userKey) :: fields := by
  refine ⟨_, rfl, ?_⟩
  simp only [fields, ofNotice, h.priority, h.sound]
  rfl

/-- A request under other settings, where one can be made at all. -/
theorem Dispatcher.requestFor_under {d : Dispatcher} {t : Settings}
    (h : d.settings.AlikeButCredentials t) (number : Option Nat) (n : Notice) :
    List.Forall₂ (Request.AlikeButCredentials d.settings t)
      (d.requestFor number n).toList ((d.under t).requestFor number n).toList := by
  obtain ⟨fields, hfields, hfields'⟩ := PushMessage.fields_ofNotice h d.product n
  rw [requestFor, requestFor, request_under, request]
  cases Endpoint.ofText d.endpoint with
  | error f => exact .nil
  | ok e =>
    refine .cons ⟨rfl, rfl, fields, ?_, ?_⟩ .nil
    · rw [hfields]
    · rw [hfields']

namespace Service

variable {s : Service} {t : Settings}

/-- What a command posts is alike but for the credentials. -/
theorem posts_under (h : s.dispatcher.settings.AlikeButCredentials t) (rs : List Request)
    (c : Command) :
    List.Forall₂ (Request.AlikeButCredentials s.dispatcher.settings t)
      (s.posts c) ((s.under t rs).posts c) := by
  have hrequest := Dispatcher.requestFor_under h
  cases c with
  | send n outcome => exact hrequest none n
  | turn number =>
    have hpending : (s.under t rs).pending? number = s.pending? number := rfl
    have hup : ∀ p, (s.under t rs).isGivenUp p = s.isGivenUp p := fun _ => rfl
    simp only [posts, hpending, hup]
    split
    · next p _ =>
      split
      · exact hrequest (some number) p.notice
      · exact .nil
    · exact .nil
  | _ => exact .nil

/-- What a run posts is alike but for the credentials. -/
theorem posted_under (h : s.dispatcher.settings.AlikeButCredentials t) (rs : List Request)
    (cs : List Command) :
    List.Forall₂ (Request.AlikeButCredentials s.dispatcher.settings t)
      (s.posted cs) ((s.under t rs).posted cs) := by
  induction cs generalizing s rs with
  | nil => exact .nil
  | cons c cs ih =>
    obtain ⟨rs', hstep⟩ := s.step_under t rs c
    -- the settings are where they were after a step
    have hkept := (s.settings_step c).1
    have hrest := ih (s := (s.step c).2) (by rwa [hkept]) rs'
    rw [hkept] at hrest
    rw [posted, posted, hstep]
    exact List.rel_append (posts_under h rs c) hrest

/-- **A run under settings that are alike but for the credentials** is answered the
same and ends alike but for them, from services that are so. -/
theorem AlikeButCredentials.run {s' : Service} (h : s.AlikeButCredentials s')
    (cs : List Command) :
    s'.answers cs = s.answers cs ∧ (s.after cs).AlikeButCredentials (s'.after cs) := by
  have hunder := h.otherwise
  have hposted := posted_under h.settings s'.requests cs
  obtain ⟨rs, hrun⟩ := s.run_under s'.dispatcher.settings s'.requests cs
  rw [← hunder] at hposted hrun
  obtain ⟨hanswers, hafter⟩ := Prod.mk.inj hrun
  refine ⟨hanswers, ?_, ?_, ?_⟩
  · rw [(s.settings_after cs).1, (s'.settings_after cs).1]
    exact h.settings
  · have hrequests : (s'.after cs).requests = rs := congrArg Service.requests hafter
    rw [(s'.settings_after cs).1, hrequests]
    exact hafter
  · rw [(s.settings_after cs).1, (s'.settings_after cs).1, requests_after, requests_after]
    exact List.rel_append h.requests hposted

/-- New services are alike but for the credentials if their settings are. -/
theorem alikeButCredentials_begin {settings other : Settings}
    (h : settings.AlikeButCredentials other) (product endpoint : String) (k : Clock) :
    (begin (.ofSettings settings product endpoint) k).AlikeButCredentials
      (begin (.ofSettings other product endpoint) k) := by
  refine ⟨h, ?_, .nil⟩
  -- of the settings only the rates have gone into the gates
  simp only [begin, ofDispatcher, Dispatcher.ofSettings, under, Dispatcher.under, h.domainRate,
    h.globalRate]

end Service

/-- **Credentials reach the bodies of requests and nothing else.** Take two settings
that differ in the token and the key alone, each empty in both or in neither, and
run the same commands, outcomes included, on a new service of each. Starting reports
the same, every command is answered the same, and afterwards one service is the other
but for the settings and the requests: it has the same windows and counters, the same
pending sends, and the same log, event by event. Settings and dispatchers print the
same. The requests correspond one to one, each for the same send and to the same
address, with the same fields but for the values of `token` and `user`. -/
theorem credentials_reach_bodies_only (settings other : Settings)
    (h : settings.AlikeButCredentials other) (product endpoint : String) (k : Clock)
    (cs : List Command) :
    let s₀ := Service.begin (.ofSettings settings product endpoint) k
    let t₀ := Service.begin (.ofSettings other product endpoint) k
    let s := s₀.after cs
    let t := t₀.after cs
    Dispatcher.start other
        = ((Dispatcher.start settings).1.map (·.under other), (Dispatcher.start settings).2) ∧
      t₀.answers cs = s₀.answers cs ∧
      t = { s with
        dispatcher := { s.dispatcher with settings := other }
        requests := t.requests } ∧
      List.Forall₂ (Request.AlikeButCredentials settings other) s.requests t.requests ∧
      other.describe = settings.describe ∧
      ∀ p, t.dispatcher.describe p t.clock = s.dispatcher.describe p s.clock := by
  intro s₀ t₀ s t
  have hbegin := Service.alikeButCredentials_begin h product endpoint k
  obtain ⟨hanswers, hafter⟩ := hbegin.run cs
  have hsettings : s.dispatcher.settings = settings := (s₀.settings_after cs).1
  have hother : t.dispatcher.settings = other := (t₀.settings_after cs).1
  have hunder : t = s.under other t.requests := hother ▸ hafter.otherwise
  have hrequests := hafter.requests
  rw [hsettings, hother] at hrequests
  refine ⟨Dispatcher.start_under h, hanswers, hunder, hrequests, h.describe_eq, fun p => ?_⟩
  rw [hunder]
  unfold Dispatcher.describe Service.under Dispatcher.under
  rw [h.describe_eq, hsettings]

/-- Under the one settings and the other a filter result is posted, a send that is
waited for fails, and the shutdown gives up what is pending. The log has a line for
each and is the same; what was posted is not. -/
theorem credentials_reach_bodies_only_past_a_shutdown :
    let settings : Settings := { Settings.default with appToken := "t", userKey := "u" }
    let other : Settings := { settings with appToken := "a&b", userKey := "=" }
    let n : Notice := ⟨"a", "r", .filteredBlockList, .v4 127 0 0 1, none,
      ⟨0, 0, by decide, by decide, by decide⟩⟩
    let m : RuleMatch := ⟨"b", ["r"], .rewritten, .v4 127 0 0 1, none⟩
    let cs : List Command := [.handle m n.time, .turn 0, .send n (.status 500), .sendLater n none,
      .shutDown, .turn 0, .turn 1]
    let s₀ := Service.begin (.ofSettings settings "" "http://[::1]/") .fresh
    let t₀ := Service.begin (.ofSettings other "" "http://[::1]/") .fresh
    settings.AlikeButCredentials other ∧ t₀.answers cs = s₀.answers cs ∧
      (t₀.after cs).log = [.sending "b" "r" .rewritten, .shuttingDown, .cancelled "b",
        .cancelled "a"] ∧
      (t₀.after cs).log = (s₀.after cs).log ∧
      (s₀.after cs).requests.map Request.send = [some 0, none] ∧
      (t₀.after cs).requests ≠ (s₀.after cs).requests := by
  intro settings other n m cs s₀ t₀
  have halike : settings.AlikeButCredentials other :=
    ⟨rfl, by decide, by decide, rfl, rfl, rfl, rfl⟩
  obtain ⟨-, hanswers, hafter, -⟩ :=
    credentials_reach_bodies_only settings other halike "" "http://[::1]/" .fresh cs
  have hlog : (t₀.after cs).log = (s₀.after cs).log := by rw [hafter]
  refine ⟨halike, hanswers, ?_, hlog, ?_, ?_⟩
  · decide +kernel
  · decide +kernel
  · decide +kernel

end Herald
