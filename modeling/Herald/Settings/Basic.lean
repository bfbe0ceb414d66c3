import Herald.Text.Digits
import Herald.Text.Quoted
/-!
# Settings

What the server's configuration says about notifications. Nothing here is
checked: credentials, priorities and rates are passed on as given. The
printed form shows every public field and, of the two credentials, only
whether they are empty.
-/

namespace Herald

/-- The settings of the push service. -/
structure Settings where
  /-- Whether notifications are sent at all. -/
  enabled : Bool
  /-- The token of the sending application. -/
  appToken : String
  /-- The key of the receiving user. -/
  userKey : String
  /-- Notifications per domain in five minutes. -/
  domainRate : UInt32
  /-- Notifications in total per minute. -/
  globalRate : UInt32
  /-- The priority of a message; zero is not sent. -/
  priority : Int32
  /-- The sound of a message; an empty one is not sent. -/
  sound : String
  deriving DecidableEq, Repr

namespace Settings

/-- The settings of an empty configuration. -/
def default : Settings where
  enabled := false
  appToken := ""
  userKey := ""
  domainRate := 1
  globalRate := 1
  priority := 0
  sound := ""

/-- A credential as it is shown: empty or not. -/
def redact (credential : String) : String :=
  if credential = "" then "<empty>" else "<redacted>"

/-- The printed form. -/
def describe (s : Settings) : String :=
  "PushoverConfig \x7b enabled: " ++ (if s.enabled then "true" else "false")
    ++ ", app_token: " ++ Quoted.quote (redact s.appToken)
    ++ ", user_key: " ++ Quoted.quote (redact s.userKey)
    ++ ", rate_limit_per_5min: " ++ String.ofList (Digits.decimal s.domainRate.toNat)
    ++ ", global_rate_limit_per_min: " ++ String.ofList (Digits.decimal s.globalRate.toNat)
    ++ ", priority: " ++ String.ofList (Digits.signedDecimal s.priority.toInt)
    ++ ", sound: " ++ Quoted.quote s.sound ++ " \x7d"

end Settings

/-- The section of the configuration that holds the settings. -/
structure Section where
  settings : Settings
  deriving DecidableEq, Repr

namespace Section

/-- The section of an empty configuration. -/
def default : Section := ⟨.default⟩

/-- The printed form. -/
def describe (s : Section) : String :=
  "NotificationsConfig \x7b pushover: " ++ s.settings.describe ++ " \x7d"

end Section

end Herald
