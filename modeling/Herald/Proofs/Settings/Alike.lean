import Herald.Proofs.Json.Agreement
import Herald.Proofs.Json.Lexing
import Herald.Proofs.Settings.Reading
/-!
# Settings are read from a text as from its value

The two ways of reading settings treat what they do not know differently: one
passes over its tokens, the other has it as a value, in an object that was
sorted and has lost all but the last member of each name. They come to the
same settings all the same, from every text that stands for a value and gives
no field twice (`settings_are_read_alike`). A text that gives a field twice is
refused where it is read directly. The section is a record of one field, which
is read from the document of the settings, so there the settings' fields count
as well as its own.
-/

namespace Herald

open Json

namespace SettingsField

/-- No field is set from an array. -/
theorem set_array_ne_ok (f : SettingsField) (change : Settings → Settings) :
    f.set .array ≠ .ok change := by
  intro h
  cases f <;> cases h

/-- No field is set from an object. -/
theorem set_object_ne_ok (f : SettingsField) (change : Settings → Settings) :
    f.set .object ≠ .ok change := by
  intro h
  cases f <;> cases h

end SettingsField

namespace Settings

/-- The section is read from documents, like the settings. -/
theorem readsDocuments : shape.ReadsDocuments := fun f _ _ _ =>
  scalarOfTokens_ok_iff f.set_array_ne_ok f.set_object_ne_ok

/-- The head of a value decides, and its document has the same. -/
theorem fieldsAgree (d : Document) : shape.FieldsAgree d := by
  intro f e _ v hv
  obtain ⟨t, ts, htokens, hhead⟩ := Document.head_of_value? hv
  show (scalarOfTokens f.set e.tokens).toOption.map Prod.fst = (f.set v.head).toOption
  rw [htokens, scalarOfTokens, hhead]
  simp only
  rcases f.set v.head with c | change
  · rfl
  · rfl

end Settings

namespace Section

/-- **A document repeats a field of the section** if it does so itself, or if
the settings given in it do. -/
def Repeats (d : Document) : Prop :=
  shape.Repeats d ∨ ∃ e, ((), e) ∈ shape.given d ∧ Settings.shape.Repeats e

/-- The one field is read from a document by reading settings. -/
theorem ofDocument_eq (d : Document) : shape.ofDocument () d
    = (Settings.shape.readDocument d).map fun s _ => ⟨s⟩ := by
  rw [RecordShape.readDocument_eq Settings.readsDocuments]
  show ((Settings.shape.readTokens d.tokens).map _).toOption.map _ = _
  rcases Settings.shape.readTokens d.tokens with e | p
  · rfl
  · rfl

/-- So it is read from documents, like the settings. -/
theorem readsDocuments : shape.ReadsDocuments := by
  rintro ⟨⟩ ts change rest
  simp only [ofDocument_eq]
  constructor
  · intro h
    obtain ⟨p, hp, heq⟩ := eq_ok_of_map_eq_ok h
    obtain ⟨rfl, rfl⟩ := Prod.ext_iff.1 heq
    obtain ⟨d, rfl, hd⟩ := (RecordShape.readTokens_ok_iff Settings.readsDocuments).1 hp
    exact ⟨d, rfl, congrArg (Option.map _) hd⟩
  · rintro ⟨d, rfl, hd⟩
    obtain ⟨s, hs, rfl⟩ := Option.map_eq_some_iff.1 hd
    have hread := RecordShape.readTokens_of_readDocument Settings.readsDocuments rest hs
    show (Settings.shape.readTokens (d.tokens ++ rest)).map _ = _
    rw [hread]
    rfl

/-- The section is read alike from settings that repeat no field. -/
theorem fieldsAgree {d : Document} (h : ¬ Repeats d) : shape.FieldsAgree d := by
  intro f e he v hv
  have hrepeats : ¬ Settings.shape.Repeats e := fun hr => h (.inr ⟨e, he, hr⟩)
  have hsettings := RecordShape.readDocument_eq_readValue Settings.lawful_shape hv hrepeats
    (Settings.fieldsAgree e)
  rw [ofDocument_eq, hsettings]
  show _ = ((Settings.shape.readValue v).map _).toOption
  rcases Settings.shape.readValue v with c | s
  · rfl
  · rfl

/-- No section is read from a document that repeats one of its fields. -/
theorem not_repeats_of_readDocument {d : Document} {t : Section}
    (h : shape.readDocument d = some t) : ¬ Repeats d := by
  rintro (hown | ⟨e, he, hsettings⟩)
  · exact RecordShape.not_repeats_of_readDocument lawful_shape h hown
  · obtain ⟨change, hchange⟩ := RecordShape.exists_change_of_readDocument h he
    rw [ofDocument_eq] at hchange
    obtain ⟨s, hs, -⟩ := Option.map_eq_some_iff.1 hchange
    exact RecordShape.not_repeats_of_readDocument Settings.lawful_shape hs hsettings

end Section

/-! ## Both ways -/

/-- **Settings are read from a text as from its value**, and so is the
section. A text that stands for a value says one document. If this repeats no
field, reading the text succeeds where reading the value does, and with the
same result. Where a document does repeat a field, reading its text never
succeeds, whether or not it stands for a value; and what is no document is
not read either. -/
theorem settings_are_read_alike (cs : List Char) :
    (∀ v, Value.ofText cs = .ok v → ∃ d : Document,
        (d.WrittenIn cs ∧ ∀ e : Document, e.WrittenIn cs → e = d)
        ∧ (¬ Settings.shape.Repeats d → ∀ s,
            Settings.shape.readText cs = .ok s ↔ Settings.shape.readValue v = .ok s)
        ∧ (¬ Section.Repeats d → ∀ t,
            Section.shape.readText cs = .ok t ↔ Section.shape.readValue v = .ok t))
    ∧ (∀ d : Document, d.WrittenIn cs →
        (Settings.shape.Repeats d → ∀ s, Settings.shape.readText cs ≠ .ok s)
        ∧ (Section.Repeats d → ∀ t, Section.shape.readText cs ≠ .ok t))
    ∧ (∀ s, Settings.shape.readText cs = .ok s → ∃ d : Document, d.WrittenIn cs)
    ∧ ∀ t, Section.shape.readText cs = .ok t → ∃ d : Document, d.WrittenIn cs := by
  refine ⟨fun v hv => ?_, fun d hd => ⟨fun hrepeats s hs => ?_, fun hrepeats t ht => ?_⟩,
    fun s hs => ?_, fun t ht => ?_⟩
  · obtain ⟨d, hd, hvalue⟩ := exists_document_of_ofText hv
    refine ⟨d, ⟨hd, fun e he => he.unique hd⟩, fun hrepeats s => ?_, fun hrepeats t => ?_⟩
    · exact RecordShape.readText_ok_iff_readValue Settings.lawful_shape Settings.readsDocuments hd
        hvalue hrepeats (Settings.fieldsAgree d)
    · exact RecordShape.readText_ok_iff_readValue Section.lawful_shape Section.readsDocuments hd
        hvalue (fun hown => hrepeats (.inl hown)) (Section.fieldsAgree hrepeats)
  · have hread := RecordShape.readDocument_of_readText Settings.readsDocuments hd hs
    exact RecordShape.not_repeats_of_readDocument Settings.lawful_shape hread hrepeats
  · have hread := RecordShape.readDocument_of_readText Section.readsDocuments hd ht
    exact Section.not_repeats_of_readDocument hread hrepeats
  · obtain ⟨d, hd, -⟩ := (RecordShape.readText_ok_iff Settings.readsDocuments).1 hs
    exact ⟨d, hd⟩
  · obtain ⟨d, hd, -⟩ := (RecordShape.readText_ok_iff Section.readsDocuments).1 ht
    exact ⟨d, hd⟩

/-- A document in which members of an unknown name repeat, both in the section
and in its settings. -/
def unknownsTwice : Document := .object [
  (.ok ['x'], .leaf .null rfl),
  (.ok "pushover".toList, .object [
    (.ok ['x'], .array []),
    (.ok "priority".toList, .leaf (.number (.ok (.integer (-1)))) rfl),
    (.ok ['x'], .leaf .null rfl),
    (.ok "enabled".toList, .leaf (.bool true) rfl)]),
  (.ok ['x'], .leaf .null rfl)]

/-- A document that repeats a field of the settings, and does so again in the
settings given in it. -/
def enabledTwice : Document := .object [
  (.ok "enabled".toList, .leaf (.bool true) rfl),
  (.ok "pushover".toList, .object [
    (.ok "enabled".toList, .leaf (.bool true) rfl),
    (.ok "enabled".toList, .leaf (.bool false) rfl)]),
  (.ok "enabled".toList, .leaf (.bool true) rfl)]

/-- Unknown members may repeat, and the section is still read from the text as
from the value, with the settings among them; a known one may not. -/
theorem settings_are_read_alike_past_unknown_members :
    (∃ cs v, Value.ofText cs = .ok v ∧ unknownsTwice.WrittenIn cs
      ∧ ¬ Settings.shape.Repeats unknownsTwice ∧ ¬ Section.Repeats unknownsTwice
      ∧ Settings.shape.readText cs = .ok .default
      ∧ Section.shape.readText cs = .ok ⟨{ Settings.default with enabled := true, priority := -1 }⟩)
    ∧ ∃ cs, enabledTwice.WrittenIn cs
      ∧ Settings.shape.Repeats enabledTwice ∧ Section.Repeats enabledTwice
      ∧ (∀ s, Settings.shape.readText cs ≠ .ok s) ∧ ∀ t, Section.shape.readText cs ≠ .ok t := by
  constructor
  · let inner : Value := .object [("x", .array []), ("priority", .number (.integer (-1))),
      ("x", .null), ("enabled", .bool true)]
    let v : Value := .object [("x", .null), ("pushover", inner), ("x", .null)]
    have hinner : inner.IsIntegral := by
      refine .object _ ?_
      simp only [List.forall_mem_cons]
      exact ⟨.array _ nofun, .integer _ (by decide) (by decide), .null, .bool true, nofun⟩
    have hv : v.IsIntegral := by
      refine .object _ ?_
      simp only [List.forall_mem_cons]
      exact ⟨.null, hinner, .null, nofun⟩
    have hwritten : unknownsTwice.WrittenIn v.text := hv.lexes.lex_text
    have hsettings : ¬ Settings.shape.Repeats unknownsTwice := by
      rintro ⟨f, hf⟩
      revert hf
      cases f <;> decide
    have hsection : ¬ Section.Repeats unknownsTwice := by
      rintro (⟨f, hf⟩ | ⟨e, he, f, hf⟩)
      · revert hf
        cases f
        decide
      · obtain ⟨-, rfl⟩ := Prod.ext_iff.1 (List.mem_singleton.1 he)
        revert hf
        cases f <;> decide
    have hvalue : Value.ofText v.text = .ok (.ofMembers [("x", .null), ("pushover", .ofMembers
        [("x", .array []), ("priority", .number (.integer (-1))), ("x", .null),
          ("enabled", .bool true)]), ("x", .null)]) := by
      have hlex : lex v.text = unknownsTwice.tokens := hwritten
      rw [Value.ofText, hlex]
      rfl
    obtain ⟨d, ⟨-, hunique⟩, halike, halike'⟩ := (settings_are_read_alike v.text).1 _ hvalue
    obtain rfl := hunique _ hwritten
    exact ⟨_, _, hvalue, hwritten, hsettings, hsection, (halike hsettings _).2 rfl,
      (halike' hsection _).2 rfl⟩
  · let v : Value := .object [("enabled", .bool true), ("pushover", .object
      [("enabled", .bool true), ("enabled", .bool false)]), ("enabled", .bool true)]
    have hv : v.IsIntegral := by
      refine .object _ ?_
      simp only [List.forall_mem_cons]
      refine ⟨.bool true, .object _ ?_, .bool true, nofun⟩
      simp only [List.forall_mem_cons]
      exact ⟨.bool true, .bool false, nofun⟩
    have hwritten : enabledTwice.WrittenIn v.text := hv.lexes.lex_text
    have hsettings : Settings.shape.Repeats enabledTwice := ⟨.enabled, by decide⟩
    have hsection : Section.Repeats enabledTwice :=
      .inr ⟨_, List.mem_singleton.2 rfl, .enabled, by decide⟩
    have hnever := (settings_are_read_alike v.text).2.1 _ hwritten
    exact ⟨_, hwritten, hsettings, hsection, hnever.1 hsettings, hnever.2 hsection⟩

end Herald
