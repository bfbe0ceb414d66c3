import Herald.Proofs.Json.FromDocuments
import Herald.Proofs.Json.Records
/-!
# What a document gives for the fields of a record

The members of an object that name a field, and the elements of an array, are
given for the fields. Where a record is read from a document, all that is
given for its fields is read (`exists_change_of_readDocument`), and no field
is given twice (`not_repeats_of_readDocument`): a document keeps members of
one name apart, and a second one for a field is refused.
-/

namespace Herald.Json

/-- The names of some members, as far as they can be read. -/
def Document.memberNames (ms : List Document.Member) : List String :=
  ms.filterMap fun m => m.1.toOption.map String.ofList

/-- A name that can be read is among them. -/
theorem Document.memberNames_cons {m : Document.Member} {cs : List Char} (hm : m.1 = .ok cs)
    (ms : List Document.Member) :
    memberNames (m :: ms) = String.ofList cs :: memberNames ms := by
  rw [memberNames, List.filterMap_cons, hm]
  rfl

/-- The names in a document that is an object. -/
def Document.names : Document → List String
  | .object ms => memberNames ms
  | _ => []

namespace RecordShape

variable {ρ φ : Type} (shape : RecordShape ρ φ)

/-- **A document repeats a field** if the name of the field stands on two of
its members. -/
def Repeats (d : Document) : Prop := ∃ f, 2 ≤ d.names.count (shape.name f)

/-- The documents given for the fields: by name in an object, and by position
in an array. -/
def given : Document → List (φ × Document)
  | .leaf _ _ => []
  | .array ds => shape.fields.zip ds
  | .object ms => ms.filterMap fun m => m.1.toOption.bind fun cs =>
      (shape.field? (String.ofList cs)).map fun f => (f, m.2)

variable {shape}

/-! ## All that is given is read -/

/-- What members give stands at the first of them, if this names a field, or
behind it. -/
theorem mem_given_cons_iff {m : Document.Member} {ms : List Document.Member} {f : φ}
    {d : Document} : (f, d) ∈ shape.given (.object (m :: ms))
      ↔ (∃ cs, m = (.ok cs, d) ∧ shape.field? (String.ofList cs) = some f)
        ∨ (f, d) ∈ shape.given (.object ms) := by
  constructor
  · intro hd
    obtain ⟨n, hn, hfound⟩ := List.mem_filterMap.1 hd
    rcases List.mem_cons.1 hn with rfl | hn
    · obtain ⟨cs, hcs, hfound⟩ := Option.bind_eq_some_iff.1 hfound
      obtain ⟨g, hg, heq⟩ := Option.map_eq_some_iff.1 hfound
      obtain ⟨rfl, rfl⟩ := Prod.ext_iff.1 heq
      exact .inl ⟨cs, Prod.ext (eq_ok_of_toOption_eq_some hcs) rfl, hg⟩
    · exact .inr (List.mem_filterMap.2 ⟨n, hn, hfound⟩)
  · rintro (⟨cs, rfl, hf⟩ | hd)
    · exact List.mem_filterMap.2 ⟨_, List.mem_cons_self, by simp [Except.toOption, hf]⟩
    · obtain ⟨n, hn, hfound⟩ := List.mem_filterMap.1 hd
      exact List.mem_filterMap.2 ⟨n, List.mem_cons_of_mem m hn, hfound⟩

variable [DecidableEq φ]

/-- What is given among members that are read is read. -/
theorem exists_change_of_membersOfDocument {ms : List Document.Member} {seen : List φ}
    {r r' : ρ} (hr : shape.membersOfDocument seen r ms = some r') {f : φ}
    {d : Document} (hd : (f, d) ∈ shape.given (.object ms)) :
    ∃ change, shape.ofDocument f d = some change := by
  induction ms generalizing seen r with
  | nil => cases hd
  | cons m ms ih =>
    obtain ⟨cs, change, hm, hmember, hr⟩ := membersOfDocument_cons_iff.1 hr
    rcases mem_given_cons_iff.1 hd with ⟨cs', rfl, hf⟩ | hd
    · obtain rfl := Except.ok.inj hm
      simp only [memberOfDocument, hf] at hmember
      split at hmember
      · cases hmember
      · obtain ⟨c, hc, -⟩ := Option.map_eq_some_iff.1 hmember
        exact ⟨c, hc⟩
    · exact ih hr hd

omit [DecidableEq φ] in
/-- What is given among elements that are read is read. -/
theorem exists_change_of_elementsOfDocument {ds : List Document} {fs : List φ} {r r' : ρ}
    (hr : shape.elementsOfDocument r fs ds = some r') {f : φ} {d : Document}
    (hd : (f, d) ∈ fs.zip ds) : ∃ change, shape.ofDocument f d = some change := by
  induction ds generalizing fs r with
  | nil =>
    rw [List.zip_nil_right] at hd
    cases hd
  | cons e ds ih =>
    obtain _ | ⟨g, fs⟩ := fs
    · cases hd
    obtain ⟨change, he, hr⟩ := Option.bind_eq_some_iff.1 hr
    rcases List.mem_cons.1 hd with heq | hd
    · obtain ⟨rfl, rfl⟩ := Prod.ext_iff.1 heq
      exact ⟨change, he⟩
    · exact ih hr hd

/-- **All that is given for a record is read.** -/
theorem exists_change_of_readDocument {d : Document} {r : ρ}
    (hr : shape.readDocument d = some r) {f : φ} {e : Document} (he : (f, e) ∈ shape.given d) :
    ∃ change, shape.ofDocument f e = some change := by
  cases d with
  | leaf t ht => cases he
  | array ds => exact exists_change_of_elementsOfDocument hr he
  | object ms => exact exists_change_of_membersOfDocument hr he

/-! ## No field is given twice -/

variable {α : Type} {get : φ → ρ → α} {Reads : φ → Value → α → Prop}

/-- Members that are read name each field once at most, and none that was
given before. -/
theorem count_memberNames_of_membersOfDocument (h : shape.Lawful get Reads)
    {ms : List Document.Member} {seen : List φ} {r r' : ρ}
    (hr : shape.membersOfDocument seen r ms = some r') (f : φ) :
    (Document.memberNames ms).count (shape.name f) ≤ if f ∈ seen then 0 else 1 := by
  induction ms generalizing seen r with
  | nil => exact Nat.zero_le _
  | cons m ms ih =>
    obtain ⟨cs, change, hm, hd, hr⟩ := membersOfDocument_cons_iff.1 hr
    rw [Document.memberNames_cons hm]
    unfold memberOfDocument at hd
    rcases hk : shape.field? (String.ofList cs) with _ | g
    · -- a name that is no field's is not counted
      rw [hk] at hd
      obtain rfl := Option.some.inj hd
      rw [List.count_cons_of_ne fun heq => h.name_ne_of_field? hk f heq.symm]
      exact ih hr
    · have hname := name_of_field? hk
      simp only [hk] at hd
      split at hd
      · cases hd
      · next hseen =>
        -- from here on the field counts as given, so the rest does not name it
        obtain ⟨c, -, rfl⟩ := Option.map_eq_some_iff.1 hd
        have hcount := ih hr
        simp only [Option.elim_some, List.mem_cons] at hcount
        rcases eq_or_ne f g with rfl | hfg
        · rw [if_pos (.inl rfl)] at hcount
          rw [if_neg hseen, hname, List.count_cons_self, ← hname]
          exact Nat.succ_le_succ hcount
        · have hne : String.ofList cs ≠ shape.name f := fun heq =>
            hfg (h.name_injective f g (heq.symm.trans hname.symm))
          rw [List.count_cons_of_ne hne]
          simp only [hfg, false_or] at hcount
          exact hcount

/-- **No record is read from a document that repeats a field.** -/
theorem not_repeats_of_readDocument (h : shape.Lawful get Reads) {d : Document} {r : ρ}
    (hd : shape.readDocument d = some r) : ¬ shape.Repeats d := by
  rintro ⟨f, htwice⟩
  cases d with
  | leaf t ht => cases hd
  | array ds => cases htwice
  | object ms =>
    have honce := count_memberNames_of_membersOfDocument h hd f
    rw [if_neg List.not_mem_nil] at honce
    exact absurd (Nat.le_trans htwice honce) (by decide)

end RecordShape

end Herald.Json
