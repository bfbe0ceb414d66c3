import Herald.Number.Binary64
import Herald.Rate.Admission
import Herald.Notice.Basic
import Herald.Time.Span
/-!
# Log events

Everything the dispatcher reports, one constructor for each event. The level,
the message and the fields of an entry are functions of the event, so the
wording stands in one place.
-/

namespace Herald

/-- The level of an entry. -/
inductive Level where
  | trace
  | debug
  | info
  | warn
  | error
  deriving DecidableEq, Repr

namespace Level

/-- Every level. -/
def all : List Level := [.trace, .debug, .info, .warn, .error]

/-- The name of a level. -/
def name : Level → String
  | .trace => "TRACE"
  | .debug => "DEBUG"
  | .info => "INFO"
  | .warn => "WARN"
  | .error => "ERROR"

/-- The levels by number: one is the most severe. -/
def byNumber (n : Nat) : Option Level := if n = 0 then none else all.reverse[n - 1]?

/-- The level of a name, in whatever case, or of a number, with a plus in
front or not. -/
def ofText? (s : String) : Option Level :=
  let digits := match s.toList with
    | '+' :: ds => ds
    | ds => ds
  if digits ≠ [] ∧ digits.all Digits.isDecimal then byNumber (Digits.read 10 digits)
  else all.find? fun l => l.name == s.toUpper

end Level

/-- A reported event. -/
inductive LogEvent where
  /-- Notifications are off in the settings. -/
  | disabled
  /-- Notifications are on, with these spacings. -/
  | enabled (domainSpacing globalSpacing : Span)
  /-- A scope blocked the notice about a match. -/
  | rateLimited (domain : String) (scope : Scope)
  /-- A notice is handed to the background. -/
  | sending (domain rule : String) (reason : Reason)
  /-- The sink took a message. -/
  | sent (domain : String) (reason : Reason)
  /-- A send was given up. -/
  | cancelled (domain : String)
  /-- A background send failed. -/
  | sendFailed (domain error : String)
  /-- A notice came after the shutdown. -/
  | dropped (domain : String)
  /-- The first shutdown. -/
  | shuttingDown
  /-- A prune of the domain windows, with their number before it. -/
  | pruned (before removed : Nat)
  /-- A prune that removed windows. -/
  | removedStale (removed : Nat)
  /-- The periodic pruning was stopped. -/
  | pruningStopped
  deriving DecidableEq, Repr

namespace LogEvent

/-- The level of an event. -/
def level : LogEvent → Level
  | .enabled .. => .info
  | .shuttingDown => .info
  | .sendFailed .. => .error
  | .pruned .. => .trace
  | _ => .debug

/-- The message of an event. -/
def message : LogEvent → String
  | .disabled => "pushover notifications disabled"
  | .enabled .. => "pushover notifications enabled"
  | .rateLimited .. => "notification rate limited"
  | .sending .. => "sending pushover notification"
  | .sent .. => "pushover notification sent"
  | .cancelled .. => "pushover notification cancelled"
  | .sendFailed .. => "sending pushover notification"
  | .dropped .. => "dispatcher shut down, dropping notification"
  | .shuttingDown => "shutting down pushover dispatcher"
  | .pruned .. => "pruned domain rate windows"
  | .removedStale .. => "removed stale notification rate windows"
  | .pruningStopped => "notification cleanup stopped"

/-- The line of the shutdown is that of no other event. -/
theorem shuttingDown_iff (e : LogEvent) :
    e = .shuttingDown ↔ e.level = .info ∧ e.message = "shutting down pushover dispatcher" := by
  cases e <;> simp [level, message]

/-- A span in seconds, as a double: the seconds and the part of a second are
rounded each on its own, and so is their sum. -/
def secondsOf (s : Span) : Binary64 :=
  (Binary64.ofNat s.seconds).add ((Binary64.ofNat s.nanos).div (.ofNat 1_000_000_000))

/-- A count as a field. -/
def count (n : Nat) : String := String.ofList (Digits.decimal n)

/-- The fields of an event, by name. -/
def fields : LogEvent → List (String × String)
  | .disabled => []
  | .enabled d g =>
    [("domain_interval_secs", (secondsOf d).hexBits),
     ("global_interval_secs", (secondsOf g).hexBits)]
  | .rateLimited d s => [("domain", d), ("limit_type", s.label)]
  | .sending d r why => [("domain", d), ("reason", why.label), ("rule", r)]
  | .sent d why => [("domain", d), ("reason", why.label)]
  | .cancelled d => [("domain", d)]
  | .sendFailed d e => [("domain", d), ("error", e)]
  | .dropped d => [("domain", d)]
  | .shuttingDown => []
  | .pruned b r => [("before", count b), ("removed", count r)]
  | .removedStale r => [("removed", count r)]
  | .pruningStopped => []

/-- The domain an event is about, if it is about one. -/
def domain? (e : LogEvent) : Option String :=
  (e.fields.find? fun f => f.1 == "domain").map Prod.snd

end LogEvent

end Herald
