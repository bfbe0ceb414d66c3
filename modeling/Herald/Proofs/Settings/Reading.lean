import Herald.Json.Steps
import Herald.Proofs.Json.Records
import Herald.Settings.Json
import Mathlib.Algebra.Order.Ring.Int
/-!
# What settings are read as

Settings read from a value are the default settings, overridden by the
members that are known: `settings_override_defaults`. Which values a field
takes is `SettingsField.Takes`, by kind and by range; a number with a
fraction or an exponent is a double, as is minus zero, and no field takes
one. The section is a record of one field, which takes what settings are
read from, so both are instances of `RecordShape.OverridesDefaults`.
-/

namespace Herald

open Json

namespace SettingsField

/-- **The values a field takes**: the one of its kind, and an integer only
within its range. -/
def Takes : SettingsField → Value → Prop
  | .enabled, v => ∃ b, v = .bool b
  | .appToken, v => ∃ s, v = .string s
  | .userKey, v => ∃ s, v = .string s
  | .domainRate, v => ∃ n : Int, v = .number (.integer n) ∧ 0 ≤ n ∧ n < 2 ^ 32
  | .globalRate, v => ∃ n : Int, v = .number (.integer n) ∧ 0 ≤ n ∧ n < 2 ^ 32
  | .priority, v => ∃ n : Int, v = .number (.integer n) ∧ -(2 ^ 31) ≤ n ∧ n < 2 ^ 31
  | .sound, v => ∃ s, v = .string s

/-- Every field is listed. -/
theorem mem_all (f : SettingsField) : f ∈ all := by
  cases f <;> decide

/-- The fields have names of their own. -/
theorem name_injective (f g : SettingsField) (h : f.name = g.name) : f = g := by
  revert h
  cases f <;> cases g <;> decide

/-- A field takes the value it holds. -/
theorem takes_get (f : SettingsField) (s : Settings) : f.Takes (f.get s) := by
  cases f with
  | enabled => exact ⟨_, rfl⟩
  | appToken | userKey | sound => exact ⟨_, rfl⟩
  | domainRate =>
    have := s.domainRate.toNat_lt
    exact ⟨_, rfl, by omega, by omega⟩
  | globalRate =>
    have := s.globalRate.toNat_lt
    exact ⟨_, rfl, by omega, by omega⟩
  | priority => exact ⟨_, rfl, s.priority.le_toInt, s.priority.toInt_lt⟩

/-- No field takes `null`. -/
theorem not_takes_null (f : SettingsField) : ¬ f.Takes .null := by
  cases f <;> simp [Takes]

/-- **What a field is read from is what it then holds.** -/
theorem get_of_set {f : SettingsField} {v : Value} {change : Settings → Settings}
    (h : f.set v.head = .ok change) (s : Settings) : f.get (change s) = v := by
  cases f <;> obtain ⟨a, ha, rfl⟩ := eq_ok_of_map_eq_ok h
  case enabled =>
    rw [Value.head_eq_bool.1 (Head.toBool_eq_ok.1 ha)]
    rfl
  case domainRate | globalRate =>
    rw [Value.head_eq_number.1 (Head.toUInt32_eq_ok.1 ha)]
    rfl
  case priority =>
    rw [Value.head_eq_number.1 (Head.toInt32_eq_ok.1 ha)]
    rfl
  case appToken | userKey | sound =>
    rw [Value.head_eq_string.1 (Head.toString_eq_ok.1 ha)]
    rfl

/-- No other field is touched. -/
theorem get_of_set_other {f g : SettingsField} {h : Head} {change : Settings → Settings}
    (hset : f.set h = .ok change) (hg : g ≠ f) (s : Settings) :
    g.get (change s) = g.get s := by
  cases f <;> obtain ⟨a, -, rfl⟩ := eq_ok_of_map_eq_ok hset
  all_goals
    cases g
    all_goals first | rfl | exact absurd rfl hg

/-- **A field is read from exactly the values it takes.** -/
theorem set_ok_iff {f : SettingsField} {v : Value} :
    (∃ change, f.set v.head = .ok change) ↔ f.Takes v := by
  constructor
  · rintro ⟨change, hc⟩
    rw [← get_of_set hc .default]
    exact f.takes_get _
  · intro h
    cases f with
    | enabled =>
      obtain ⟨b, rfl⟩ := h
      exact ⟨_, rfl⟩
    | appToken | userKey | sound =>
      obtain ⟨t, rfl⟩ := h
      exact ⟨_, rfl⟩
    | domainRate | globalRate =>
      obtain ⟨n, rfl, h0, h1⟩ := h
      exact ⟨_, congrArg (Except.map _) (Head.toUInt32_of_le h0 (by omega))⟩
    | priority =>
      obtain ⟨n, rfl, h0, h1⟩ := h
      exact ⟨_, congrArg (Except.map _) (Head.toInt32_of_le (by omega) (by omega))⟩

/-- Settings are what their fields hold. -/
theorem ext_get {s s' : Settings} (h : ∀ f : SettingsField, f.get s = f.get s') : s = s' := by
  obtain ⟨enabled, appToken, userKey, domainRate, globalRate, priority, sound⟩ := s
  obtain ⟨enabled', appToken', userKey', domainRate', globalRate', priority', sound'⟩ := s'
  have henabled := h .enabled
  have happToken := h .appToken
  have huserKey := h .userKey
  have hdomainRate := h .domainRate
  have hglobalRate := h .globalRate
  have hpriority := h .priority
  have hsound := h .sound
  simp only [get, Value.ofNat, Value.bool.injEq, Value.string.injEq, Value.number.injEq,
    Number.integer.injEq, Int.natCast_inj, UInt32.toNat_inj, Int32.toInt_inj] at *
  simp only [henabled, happToken, huserKey, hdomainRate, hglobalRate, hpriority, hsound]

end SettingsField

/-! ## The two records -/

/-- Settings are read by their fields: each from what it takes, for what it
then holds. -/
theorem Settings.lawful_shape : Settings.shape.Lawful (fun f s => f.get s)
    fun f v a => f.Takes v ∧ a = v where
  complete := SettingsField.mem_all
  nodup := by decide
  name_injective := SettingsField.name_injective
  change_of_ok f v change hc := by
    have htakes := SettingsField.set_ok_iff.1 ⟨change, hc⟩
    exact ⟨v, ⟨htakes, rfl⟩, fun s =>
      ⟨SettingsField.get_of_set hc s, fun _ hg => SettingsField.get_of_set_other hc hg s⟩⟩
  not_reads_of_error f v e he a := by
    rintro ⟨htakes, -⟩
    obtain ⟨change, hc⟩ := SettingsField.set_ok_iff.2 htakes
    cases he.symm.trans hc
  reads_unique _ _ _ _ ha hb := ha.2.trans hb.2.symm
  ext _ _ := SettingsField.ext_get

/-- The section is read by its one field, from what settings are read
from. -/
theorem Section.lawful_shape : Section.shape.Lawful (fun _ t => t.settings)
    fun _ v s => Settings.shape.readValue v = .ok s where
  complete _ := List.mem_singleton.2 rfl
  nodup := by decide
  name_injective _ _ _ := rfl
  change_of_ok _ v change hc := by
    obtain ⟨s, hs, rfl⟩ := eq_ok_of_map_eq_ok hc
    exact ⟨s, hs, fun _ => ⟨rfl, fun g hg => absurd rfl hg⟩⟩
  not_reads_of_error _ v e he a ha := by
    have hok : Section.shape.ofValue () v = .ok fun _ => ⟨a⟩ := congrArg (Except.map _) ha
    cases he.symm.trans hok
  reads_unique _ _ _ _ ha hb := Except.ok.inj (ha.symm.trans hb)
  ext _ _ h := congrArg Section.mk (h ())

/-- **Settings read from a value are the defaults, overridden by the known
members.** So is the section, whose one field takes what settings are read
from. -/
theorem settings_override_defaults :
    Settings.shape.OverridesDefaults (fun f s => f.get s) (fun f v a => f.Takes v ∧ a = v)
    ∧ Section.shape.OverridesDefaults (fun _ t => t.settings)
        (fun _ v s => Settings.shape.readValue v = .ok s) := by
  refine ⟨Settings.lawful_shape.overridesDefaults ?_, Section.lawful_shape.overridesDefaults ?_⟩
  · rintro f a ⟨htakes, -⟩
    exact f.not_takes_null htakes
  · intro f s hs
    cases hs

/-- A partial section keeps the defaults of the fields it does not name. -/
example : Section.shape.readValue (.object [("pushover", .object [
      ("priority", .number (.integer (-1))), ("unknown", .null), ("enabled", .bool true)])])
    = .ok ⟨{ Settings.default with enabled := true, priority := -1 }⟩ := rfl

end Herald
