import Herald.Proofs.Json.Written
import Herald.Proofs.Settings.Reading
/-!
# Settings survive being written

Settings that are written as JSON are read back as they were, from the text
and from the value, whatever order the members of the value are in; and so is
the section. The value is a case of what `settings_override_defaults` says:
its members name every field, so no default is left. The text comes down to
the value, since its tokens are read as the value is. That different settings
have different texts follows.
-/

namespace Herald

open Json

namespace SettingsField

/-- What a field holds is one token. -/
theorem tokens_get (f : SettingsField) (s : Settings) : ∃ t, (f.get s).tokens = [t] := by
  cases f <;> exact ⟨_, rfl⟩

/-- Its numbers fit a word. -/
theorem isIntegral_get (f : SettingsField) (s : Settings) : (f.get s).IsIntegral := by
  have hdomainRate := s.domainRate.toNat_lt
  have hglobalRate := s.globalRate.toNat_lt
  have hlo := s.priority.le_toInt
  have hhi := s.priority.toInt_lt
  cases f with
  | enabled => exact .bool _
  | appToken | userKey | sound => exact .string _
  | domainRate => exact .integer _ (by omega) (by omega)
  | globalRate => exact .integer _ (by omega) (by omega)
  | priority => exact .integer _ (by omega) (by omega)

/-- The value of a field is read from its token as from the value. -/
theorem readsAlike_get (f : SettingsField) (s : Settings) :
    Settings.shape.ReadsAlike f (f.get s) := by
  obtain ⟨t, ht⟩ := f.tokens_get s
  exact scalarOfTokens_tokens f.set ht

end SettingsField

namespace Settings

/-- The members settings are written as. -/
def members (s : Settings) : List (String × Value) :=
  SettingsField.all.map fun f => (f.name, f.get s)

/-- Their names are distinct. -/
theorem nodup_members (s : Settings) : (s.members.map Prod.fst).Nodup := by
  have hnames : (SettingsField.all.map SettingsField.name).Nodup := by decide
  rw [members, List.map_map]
  exact hnames

/-- There is one for every field, with what the field holds. -/
theorem mem_members_iff {s : Settings} {f : SettingsField} {v : Value} :
    (f.name, v) ∈ s.members ↔ v = f.get s := by
  rw [members, List.mem_map]
  constructor
  · rintro ⟨g, -, heq⟩
    obtain ⟨hname, hv⟩ := Prod.ext_iff.1 heq
    obtain rfl := g.name_injective f hname
    exact hv.symm
  · rintro rfl
    exact ⟨f, f.mem_all, rfl⟩

/-- **Settings are read back from their members**, in any order. -/
theorem readValue_of_perm {s : Settings} {ms : List (String × Value)} (h : s.members.Perm ms) :
    shape.readValue (.object ms) = .ok s := by
  have hnames : (ms.map Prod.fst).Nodup := (h.map Prod.fst).nodup_iff.1 s.nodup_members
  rw [RecordShape.readValue_object_eq_ok_iff lawful_shape hnames]
  refine fun f => ⟨fun v hv => ?_, ?_⟩
  · obtain rfl := mem_members_iff.1 (h.mem_iff.2 hv)
    exact ⟨f.takes_get s, rfl⟩
  · intro hnone
    exact absurd (h.mem_iff.1 (mem_members_iff.2 rfl)) (hnone (f.get s))

/-- Settings are read from their tokens as from their members. -/
theorem readTokens_toValue (s : Settings) (rest : List Token) :
    shape.readTokens (s.toValue.tokens ++ rest) = .ok (s, rest) := by
  have hmembers : ∀ m ∈ s.members, ∃ f, shape.field? m.1 = some f ∧ shape.ReadsAlike f m.2 := by
    intro m hm
    obtain ⟨f, -, rfl⟩ := List.mem_map.1 hm
    exact ⟨f, lawful_shape.field?_name f, f.readsAlike_get s⟩
  have htokens := RecordShape.readTokens_object hmembers rest
  rw [readValue_of_perm (.refl _)] at htokens
  exact htokens

/-- All numbers among the members fit a word. -/
theorem isIntegral_toValue (s : Settings) : s.toValue.IsIntegral := by
  refine .object s.members fun m hm => ?_
  obtain ⟨f, -, rfl⟩ := List.mem_map.1 hm
  exact f.isIntegral_get s

end Settings

namespace Section

/-- The one field is read from tokens by reading settings. -/
theorem ofTokens_eq (ts : List Token) : shape.ofTokens () ts
    = (Settings.shape.readTokens ts).map fun p => (fun _ => ⟨p.1⟩, p.2) := rfl

/-- The one field is read from a value by reading settings. -/
theorem ofValue_eq (v : Value) :
    shape.ofValue () v = (Settings.shape.readValue v).map fun s _ => ⟨s⟩ := rfl

/-- The two agree on written settings. -/
theorem readsAlike_toValue (s : Settings) : shape.ReadsAlike () s.toValue := by
  intro rest
  rw [ofTokens_eq, ofValue_eq, s.readTokens_toValue, Settings.toValue, ← Settings.members,
    Settings.readValue_of_perm (.refl _)]
  rfl

/-- **The section is read back from its member**, whatever order the members
of the settings are in. -/
theorem readValue_of_perm {t : Section} {ms : List (String × Value)}
    (h : t.settings.members.Perm ms) :
    shape.readValue (.object [("pushover", .object ms)]) = .ok t := by
  have hnames : ([("pushover", Value.object ms)].map Prod.fst).Nodup := by simp
  rw [RecordShape.readValue_object_eq_ok_iff lawful_shape hnames]
  refine fun _ => ⟨fun v hv => ?_, ?_⟩
  · obtain ⟨-, rfl⟩ := Prod.ext_iff.1 (List.mem_singleton.1 hv)
    exact Settings.readValue_of_perm h
  · intro hnone
    exact absurd (List.mem_singleton.2 rfl) (hnone _)

/-- The section is read from its tokens as from its member. -/
theorem readTokens_toValue (t : Section) (rest : List Token) :
    shape.readTokens (t.toValue.tokens ++ rest) = .ok (t, rest) := by
  have hmembers : ∀ m ∈ [("pushover", t.settings.toValue)],
      ∃ f, shape.field? m.1 = some f ∧ shape.ReadsAlike f m.2 := by
    intro m hm
    obtain rfl := List.mem_singleton.1 hm
    exact ⟨(), lawful_shape.field?_name (), readsAlike_toValue t.settings⟩
  have htokens := RecordShape.readTokens_object hmembers rest
  rw [Settings.toValue, ← Settings.members, readValue_of_perm (.refl _)] at htokens
  exact htokens

/-- All numbers in it fit a word. -/
theorem isIntegral_toValue (t : Section) : t.toValue.IsIntegral := by
  refine .object [("pushover", t.settings.toValue)] fun m hm => ?_
  obtain rfl := List.mem_singleton.1 hm
  exact t.settings.isIntegral_toValue

end Section

/-! ## There and back -/

/-- **Settings and the section survive a round trip**: written as JSON they
are read back as they were, from their text and from their value with its
members in any order, and different ones have different texts. -/
theorem settings_survive_round_trips :
    (∀ s : Settings, Settings.shape.readText s.toValue.text = .ok s
      ∧ (∀ ms, s.members.Perm ms → Settings.shape.readValue (.object ms) = .ok s)
      ∧ ∀ s' : Settings, s'.toValue.text = s.toValue.text → s' = s)
    ∧ ∀ t : Section, Section.shape.readText t.toValue.text = .ok t
      ∧ (∀ ms, t.settings.members.Perm ms →
          Section.shape.readValue (.object [("pushover", .object ms)]) = .ok t)
      ∧ ∀ t' : Section, t'.toValue.text = t.toValue.text → t' = t := by
  have hsettings : ∀ s : Settings, Settings.shape.readText s.toValue.text = .ok s := fun s =>
    RecordShape.readText_of_readTokens s.isIntegral_toValue.lexes s.readTokens_toValue
  have hsection : ∀ t : Section, Section.shape.readText t.toValue.text = .ok t := fun t =>
    RecordShape.readText_of_readTokens t.isIntegral_toValue.lexes t.readTokens_toValue
  refine ⟨fun s => ⟨hsettings s, fun _ => Settings.readValue_of_perm, fun s' heq => ?_⟩,
    fun t => ⟨hsection t, fun _ => Section.readValue_of_perm, fun t' heq => ?_⟩⟩
  · -- one text cannot be read as two settings
    have hread := hsettings s'
    rw [heq, hsettings s] at hread
    exact (Except.ok.inj hread).symm
  · have hread := hsection t'
    rw [heq, hsection t] at hread
    exact (Except.ok.inj hread).symm

end Herald
