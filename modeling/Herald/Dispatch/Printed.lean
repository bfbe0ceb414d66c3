import Herald.Dispatch.Dispatcher
import Herald.Time.Clock
/-!
# A dispatcher in print

The printed form of a dispatcher shows its parts in order, each in its own
printed form. The forms of the locks, the maps, the clock, the client and the
runtime come with those parts, and a `PartPrinter` stands for them. The
settings are printed by their own form, which tells of a credential only
whether it is empty.
-/

namespace Herald

/-- How the parts are printed whose forms are not the dispatcher's own. -/
structure PartPrinter where
  /-- The global gate, with its lock and its clock. -/
  globalGate : GlobalGate → Clock → String
  /-- The gate of the domains, with its map and its clock. -/
  domainGate : DomainGate → Clock → String
  /-- The client that posts to an endpoint. -/
  client : String → String
  runtime : String
  /-- The token of the shutdown, fired or not. -/
  shutDownToken : Bool → String

/-- **The printed form** of a dispatcher that reads a clock. -/
def Dispatcher.describe (p : PartPrinter) (c : Clock) (d : Dispatcher) : String :=
  "Dispatcher \x7b inner: DispatcherInner \x7b config: " ++ d.settings.describe
    ++ ", title_prefix: " ++ Quoted.quote d.product
    ++ ", global: " ++ p.globalGate d.globalGate c
    ++ ", domains: " ++ p.domainGate d.domainGate c
    ++ ", client: " ++ p.client d.endpoint
    ++ ", metrics: DispatchMetrics \x7b inner: " ++ d.counters.describeAs "MetricsInner"
    ++ " \x7d, runtime: " ++ p.runtime
    ++ ", shutdown: " ++ p.shutDownToken d.isShutDown ++ " \x7d \x7d"

end Herald
