import Herald.Proofs.Text.Quoting
import Herald.Settings.Basic
import Herald.Text.Parts
import Mathlib.Data.List.Basic
/-!
# What printed settings tell

The printed form of the settings is told apart by every public field, and of a
credential by whether it is empty. The values in front of the sound have no comma,
so each of them ends at the first one behind it (`cut_first`); the sound can be any
text, and ends where its quote does.
-/

namespace Herald

/-- **Settings that are alike but for the credentials**, each of which is empty in
both or in neither. -/
structure Settings.AlikeButCredentials (s t : Settings) : Prop where
  enabled : t.enabled = s.enabled
  appToken : t.appToken = "" ↔ s.appToken = ""
  userKey : t.userKey = "" ↔ s.userKey = ""
  domainRate : t.domainRate = s.domainRate
  globalRate : t.globalRate = s.globalRate
  priority : t.priority = s.priority
  sound : t.sound = s.sound

namespace Settings

variable {s t : Settings}

/-! ## The values in front of the sound -/

/-- How a yes or no is printed. -/
def yesNo (b : Bool) : List Char := (if b then "true" else "false").toList

theorem yesNo_inj {a b : Bool} : yesNo a = yesNo b ↔ a = b := by
  revert a b
  decide

theorem comma_notMem_yesNo (b : Bool) : ',' ∉ yesNo b := by
  revert b
  decide

/-- How a credential is printed. -/
def hidden (credential : String) : List Char := Quoted.encode (redact credential).toList

/-- The printed form tells of a credential whether it is empty. -/
theorem redact_congr {a b : String} (h : b = "" ↔ a = "") : redact b = redact a := by
  simp only [redact, h]

/-- The printed form tells no more of a credential than whether it is empty. -/
theorem hidden_inj {a b : String} : hidden a = hidden b ↔ (b = "" ↔ a = "") := by
  refine ⟨fun h => ?_, fun h => by rw [hidden, hidden, redact_congr h]⟩
  have hne : Quoted.encode "<empty>".toList ≠ Quoted.encode "<redacted>".toList := by decide +kernel
  by_cases ha : a = "" <;> by_cases hb : b = "" <;> simp only [hidden, redact, ha, hb] at h ⊢
  · exact absurd h hne
  · exact absurd h.symm hne

theorem comma_notMem_hidden (credential : String) : ',' ∉ hidden credential := by
  have hempty : ',' ∉ Quoted.encode "<empty>".toList := by decide +kernel
  have hredacted : ',' ∉ Quoted.encode "<redacted>".toList := by decide +kernel
  unfold hidden redact
  split
  · exact hempty
  · exact hredacted

/-- A number is told by its digits. -/
theorem decimal_inj {a b : UInt32} :
    Digits.decimal a.toNat = Digits.decimal b.toNat ↔ a = b := by
  refine ⟨fun h => UInt32.toNat_inj.1 ?_, fun h => h ▸ rfl⟩
  have hread := congrArg Digits.readDecimal? h
  rwa [Digits.readDecimal?_decimal, Digits.readDecimal?_decimal, Option.some.injEq] at hread

theorem comma_notMem_decimal (n : Nat) : ',' ∉ Digits.decimal n :=
  fun h => absurd (Digits.isDecimal_of_mem_decimal h) (by decide)

/-- A number with a sign is told by its digits. -/
theorem signedDecimal_inj {a b : Int32} :
    Digits.signedDecimal a.toInt = Digits.signedDecimal b.toInt ↔ a = b := by
  refine ⟨fun h => Int32.toInt_inj.1 ?_, fun h => h ▸ rfl⟩
  have hread := congrArg Digits.readSigned? h
  rwa [Digits.readSigned?_signedDecimal, Digits.readSigned?_signedDecimal,
    Option.some.injEq] at hread

theorem comma_notMem_signedDecimal (n : Int) : ',' ∉ Digits.signedDecimal n := by
  unfold Digits.signedDecimal
  split
  · exact List.not_mem_cons_of_ne_of_not_mem (by decide) (comma_notMem_decimal _)
  · exact comma_notMem_decimal _

/-! ## The printed form -/

/-- The values, and the words and commas between them. -/
theorem toList_describe (s : Settings) : s.describe.toList =
    "PushoverConfig \x7b enabled: ".toList ++ (yesNo s.enabled
    ++ ',' :: (" app_token: ".toList ++ (hidden s.appToken
    ++ ',' :: (" user_key: ".toList ++ (hidden s.userKey
    ++ ',' :: (" rate_limit_per_5min: ".toList ++ (Digits.decimal s.domainRate.toNat
    ++ ',' :: (" global_rate_limit_per_min: ".toList ++ (Digits.decimal s.globalRate.toNat
    ++ ',' :: (" priority: ".toList ++ (Digits.signedDecimal s.priority.toInt
    ++ ',' :: (" sound: ".toList ++ (Quoted.encode s.sound.toList
    ++ " \x7d".toList))))))))))))) := by
  have htoken : ", app_token: ".toList = ',' :: " app_token: ".toList := by simp
  have hkey : ", user_key: ".toList = ',' :: " user_key: ".toList := by simp
  have hdomain : ", rate_limit_per_5min: ".toList = ',' :: " rate_limit_per_5min: ".toList := by
    simp
  have hglobal : ", global_rate_limit_per_min: ".toList
      = ',' :: " global_rate_limit_per_min: ".toList := by simp
  have hpriority : ", priority: ".toList = ',' :: " priority: ".toList := by simp
  have hsound : ", sound: ".toList = ',' :: " sound: ".toList := by simp
  unfold describe
  simp only [String.toList_append, String.toList_ofList, Quoted.quote, htoken, hkey,
    hdomain, hglobal, hpriority, hsound, yesNo, hidden, List.append_assoc, List.cons_append]

/-- A value behind its name ends at the comma, and is read in one way only. -/
theorem cut_value {name p q r s : List Char} (hp : ',' ∉ p) (hq : ',' ∉ q) :
    name ++ (p ++ ',' :: r) = name ++ (q ++ ',' :: s) ↔ p = q ∧ r = s := by
  rw [List.append_cancel_left_eq, cut_first hp hq]

/-- **Printed settings are told apart** by every public field, and by whether a
credential is empty. -/
theorem describe_inj : s.describe = t.describe ↔ s.AlikeButCredentials t := by
  rw [← String.toList_inj, toList_describe, toList_describe,
    cut_value (comma_notMem_yesNo _) (comma_notMem_yesNo _),
    cut_value (comma_notMem_hidden _) (comma_notMem_hidden _),
    cut_value (comma_notMem_hidden _) (comma_notMem_hidden _),
    cut_value (comma_notMem_decimal _) (comma_notMem_decimal _),
    cut_value (comma_notMem_decimal _) (comma_notMem_decimal _),
    cut_value (comma_notMem_signedDecimal _) (comma_notMem_signedDecimal _),
    List.append_cancel_left_eq, Quoted.encode_append_inj, yesNo_inj, hidden_inj, hidden_inj,
    decimal_inj, decimal_inj, signedDecimal_inj, String.toList_inj]
  constructor
  · rintro ⟨henabled, htoken, hkey, hdomain, hglobal, hpriority, hsound, -⟩
    exact ⟨henabled.symm, htoken, hkey, hdomain.symm, hglobal.symm, hpriority.symm, hsound.symm⟩
  · intro h
    exact ⟨h.enabled.symm, h.appToken, h.userKey, h.domainRate.symm, h.globalRate.symm,
      h.priority.symm, h.sound.symm, rfl⟩

/-- **Credentials are not printed.** -/
theorem AlikeButCredentials.describe_eq (h : s.AlikeButCredentials t) :
    t.describe = s.describe := (describe_inj.2 h).symm

end Settings

/-- The printed section is told apart by the printed settings in it. -/
theorem Section.describe_inj {s t : Section} :
    s.describe = t.describe ↔ s.settings.AlikeButCredentials t.settings := by
  rw [← Settings.describe_inj, ← String.toList_inj, ← String.toList_inj]
  unfold describe
  simp only [String.toList_append, List.append_cancel_right_eq, List.append_cancel_left_eq]

/-- **Printed settings show all but the credentials.** The printed forms of two
settings are the same exactly if every public field is, and if of either credential
both are empty or neither is; and a section is printed as its settings are. The sound
can be any text, one that looks like other fields among them. -/
theorem printed_settings_show_all_but_credentials :
    (∀ s t : Settings, s.describe = t.describe ↔ s.AlikeButCredentials t) ∧
      ∀ s t : Section, s.describe = t.describe ↔ s.settings.AlikeButCredentials t.settings :=
  ⟨fun _ _ => Settings.describe_inj, fun _ _ => Section.describe_inj⟩

end Herald
