import Herald.Json.Record
import Herald.Settings.Basic
/-!
# Settings in JSON

The fields of the settings under their names, how each is read, and the
object they are written as. The section is a record of one field, whose value
is the record of the settings.
-/

namespace Herald

open Json

/-- A field of the settings. -/
inductive SettingsField where
  | enabled
  | appToken
  | userKey
  | domainRate
  | globalRate
  | priority
  | sound
  deriving DecidableEq, Repr

namespace SettingsField

/-- The fields in order. -/
def all : List SettingsField :=
  [.enabled, .appToken, .userKey, .domainRate, .globalRate, .priority, .sound]

/-- The name of a field. -/
def name : SettingsField → String
  | .enabled => "enabled"
  | .appToken => "app_token"
  | .userKey => "user_key"
  | .domainRate => "rate_limit_per_5min"
  | .globalRate => "global_rate_limit_per_min"
  | .priority => "priority"
  | .sound => "sound"

/-- The change a head makes to a field, if it suits the field. -/
def set : SettingsField → Head → Except Mismatch (Settings → Settings)
  | .enabled, h => h.toBool.map fun b s => { s with enabled := b }
  | .appToken, h => h.toString.map fun t s => { s with appToken := t }
  | .userKey, h => h.toString.map fun t s => { s with userKey := t }
  | .domainRate, h => h.toUInt32.map fun n s => { s with domainRate := n }
  | .globalRate, h => h.toUInt32.map fun n s => { s with globalRate := n }
  | .priority, h => h.toInt32.map fun n s => { s with priority := n }
  | .sound, h => h.toString.map fun t s => { s with sound := t }

/-- The value of a field. -/
def get (s : Settings) : SettingsField → Value
  | .enabled => .bool s.enabled
  | .appToken => .string s.appToken
  | .userKey => .string s.userKey
  | .domainRate => .ofNat s.domainRate.toNat
  | .globalRate => .ofNat s.globalRate.toNat
  | .priority => .number (.integer s.priority.toInt)
  | .sound => .string s.sound

end SettingsField

namespace Settings

/-- How settings are read. -/
def shape : RecordShape Settings SettingsField where
  title := "struct PushoverConfig"
  fields := SettingsField.all
  name := SettingsField.name
  default := .default
  ofValue f v := f.set v.head
  ofTokens f ts := scalarOfTokens f.set ts

/-- Settings as an object, with every field in order. -/
def toValue (s : Settings) : Value :=
  .object (SettingsField.all.map fun f => (f.name, f.get s))

end Settings

namespace Section

/-- How the section is read. -/
def shape : RecordShape Section Unit where
  title := "struct NotificationsConfig"
  fields := [()]
  name _ := "pushover"
  default := .default
  ofValue _ v := (Settings.shape.readValue v).map fun s _ => ⟨s⟩
  ofTokens _ ts := (Settings.shape.readTokens ts).map fun p => (fun _ => ⟨p.1⟩, p.2)

/-- The section as an object. -/
def toValue (s : Section) : Value := .object [("pushover", s.settings.toValue)]

end Section

end Herald
