import Mathlib.Data.List.Induction
import Herald.Proofs.Json.Given
/-!
# A document and its value are read alike

A document keeps what its value forgets: the order of the members, and all
but the last of one name. No record shows it as long as the document repeats
no field (`readDocument_eq_readValue`). Members of one name then name no
field, and what is left for the fields is the same in both, so that
`readValue_object_congr` applies. What the fields themselves are given has to
be read alike, which is `FieldsAgree`.
-/

namespace Herald.Json

/-! ## Members put in order -/

namespace Value

/-- Members in strictly ascending order of their names. -/
def Ascending (ms : List (String × Value)) : Prop := ms.Pairwise fun m n => m.1 < n.1

/-- **Among ascending members, a new one takes the place of the one with its
name**, and leaves the others. -/
theorem mem_insertMember {k k' : String} {v v' : Value} {ms : List (String × Value)}
    (h : Ascending ms) :
    (k', v') ∈ insertMember k v ms ↔ (k' = k ∧ v' = v) ∨ (k' ≠ k ∧ (k', v') ∈ ms) := by
  induction ms with
  | nil => simp [insertMember]
  | cons m ms ih =>
    obtain ⟨l, w⟩ := m
    obtain ⟨hl, hms⟩ := List.pairwise_cons.1 h
    have hne : ∀ x u, (x, u) ∈ ms → x ≠ l := fun x u hx => (String.ne_of_lt (hl (x, u) hx)).symm
    rw [insertMember]
    split
    · next hkl =>
      subst hkl
      simp only [List.mem_cons, Prod.mk.injEq]
      grind
    · next hkl =>
      split
      · next hlt =>
        have hbehind : ∀ x u, (x, u) ∈ ms → x ≠ k := fun x u hx =>
          (String.ne_of_lt (String.lt_trans hlt (hl (x, u) hx))).symm
        simp only [List.mem_cons, Prod.mk.injEq]
        grind
      · simp only [List.mem_cons, Prod.mk.injEq, ih hms]
        grind

/-- Ascending members stay in order when one is put in. -/
theorem ascending_insertMember {k : String} {v : Value} {ms : List (String × Value)}
    (h : Ascending ms) : Ascending (insertMember k v ms) := by
  induction ms with
  | nil => exact List.pairwise_singleton _ _
  | cons m ms ih =>
    obtain ⟨l, w⟩ := m
    obtain ⟨hl, hms⟩ := List.pairwise_cons.1 h
    rw [insertMember]
    split
    · next hkl =>
      subst hkl
      exact List.pairwise_cons.2 ⟨hl, hms⟩
    · next hkl =>
      split
      · next hlt =>
        refine List.pairwise_cons.2 ⟨fun n hn => ?_, h⟩
        rcases List.mem_cons.1 hn with rfl | hn
        · exact hlt
        · exact String.lt_trans hlt (hl n hn)
      · next hnlt =>
        refine List.pairwise_cons.2 ⟨fun n hn => ?_, ih hms⟩
        rcases (mem_insertMember hms).1 hn with ⟨hname, -⟩ | ⟨-, hn⟩
        · rw [hname]
          exact Std.lt_of_le_of_ne (String.not_lt.1 hnlt) (Ne.symm hkl)
        · exact hl n hn

/-- Members put in order of their names. -/
def merged (ms : List (String × Value)) : List (String × Value) :=
  ms.foldl (fun acc m => insertMember m.1 m.2 acc) []

/-- An object has its members in order of their names. -/
theorem ofMembers_eq (ms : List (String × Value)) : ofMembers ms = .object (merged ms) := rfl

/-- The last member is put in last. -/
theorem merged_concat (ms : List (String × Value)) (m : String × Value) :
    merged (ms ++ [m]) = insertMember m.1 m.2 (merged ms) :=
  List.foldl_concat _ _ _ _

/-- Merged members are in order. -/
theorem ascending_merged (ms : List (String × Value)) : Ascending (merged ms) := by
  induction ms using List.reverseRecOn with
  | nil => exact List.Pairwise.nil
  | append_singleton ms m ih =>
    rw [merged_concat]
    exact ascending_insertMember ih

/-- Merged members have distinct names. -/
theorem nodup_merged (ms : List (String × Value)) : ((merged ms).map Prod.fst).Nodup :=
  List.pairwise_map.2 ((ascending_merged ms).imp String.ne_of_lt)

/-- **The only member of its name is kept.** -/
theorem mem_merged_iff {ms : List (String × Value)} {k : String} {v : Value}
    (hk : (ms.map Prod.fst).count k ≤ 1) : (k, v) ∈ merged ms ↔ (k, v) ∈ ms := by
  induction ms using List.reverseRecOn with
  | nil => exact Iff.rfl
  | append_singleton ms m ih =>
    obtain ⟨l, w⟩ := m
    rw [List.map_append, List.count_append] at hk
    rw [merged_concat, mem_insertMember (ascending_merged ms), List.mem_append,
      List.mem_singleton, Prod.mk.injEq]
    rcases eq_or_ne k l with rfl | hkl
    · -- all that was there before has another name
      have hnone : (k, v) ∉ ms := fun hv => by
        have hpos : 0 < (ms.map Prod.fst).count k :=
          List.count_pos_iff.2 (List.mem_map_of_mem (f := Prod.fst) hv)
        simp only [List.map_cons, List.map_nil, List.count_singleton_self] at hk
        omega
      simp [hnone]
    · have hbefore := ih (Nat.le_trans (Nat.le_add_right _ _) hk)
      simp [hkl, hbefore]

end Value

/-! ## Values of elements and members -/

/-- A scalar has the head of its token. -/
theorem Token.head_of_scalar {t : Token} {v : Value} (h : t.scalar = .ok v) :
    t.head = .ok v.head := by
  cases t with
  | null | bool b =>
    cases h
    rfl
  | number w | string w =>
    obtain ⟨a, rfl, rfl⟩ := eq_ok_of_map_eq_ok h
    rfl
  | _ => cases h

namespace Document

/-- Elements have values if each has one. -/
theorem elementValues?_cons_iff {d : Document} {ds : List Document} {vs : List Value} :
    elementValues? (d :: ds) = some vs
      ↔ ∃ v ws, d.value? = some v ∧ elementValues? ds = some ws ∧ v :: ws = vs := by
  simp [elementValues?, Option.bind_eq_some_iff]

/-- Members do if each has one and a name. -/
theorem memberValues?_cons_iff {m : Member} {ms : List Member} {vs : List (String × Value)} :
    memberValues? (m :: ms) = some vs
      ↔ ∃ cs v ws, m.1 = .ok cs ∧ m.2.value? = some v ∧ memberValues? ms = some ws
          ∧ (String.ofList cs, v) :: ws = vs := by
  obtain ⟨_ | cs, d⟩ := m
  · simp [memberValues?, Except.toOption]
  · simp [memberValues?, Except.toOption, Option.bind_eq_some_iff]

/-- The names of members that have values can all be read. -/
theorem map_fst_of_memberValues? {ms : List Member} {vs : List (String × Value)}
    (h : memberValues? ms = some vs) : vs.map Prod.fst = memberNames ms := by
  induction ms generalizing vs with
  | nil =>
    obtain rfl := Option.some.inj h
    rfl
  | cons m ms ih =>
    obtain ⟨cs, v, ws, hm, -, hws, rfl⟩ := memberValues?_cons_iff.1 h
    rw [List.map_cons, ih hws, memberNames_cons hm]

/-- A value has the head of the token its document starts with. -/
theorem head_of_value? {d : Document} {v : Value} (h : d.value? = some v) :
    ∃ t ts, d.tokens = t :: ts ∧ t.head = .ok v.head := by
  cases d with
  | leaf t ht => exact ⟨t, [], rfl, Token.head_of_scalar (eq_ok_of_toOption_eq_some h)⟩
  | array ds =>
    obtain ⟨vs, -, rfl⟩ := Option.map_eq_some_iff.1 h
    exact ⟨_, _, rfl, rfl⟩
  | object ms =>
    obtain ⟨vs, -, rfl⟩ := Option.map_eq_some_iff.1 h
    exact ⟨_, _, rfl, rfl⟩

end Document

namespace RecordShape

variable {ρ φ : Type} (shape : RecordShape ρ φ)

/-- **The fields are read alike** from the documents given for them and from
their values. -/
def FieldsAgree (d : Document) : Prop :=
  ∀ f e, (f, e) ∈ shape.given d → ∀ v, e.value? = some v →
    shape.ofDocument f e = (shape.ofValue f v).toOption

variable [DecidableEq φ] {shape}

/-! ## Members -/

/-- Members that name no field may be left out. -/
theorem membersOfValue_filter {seen : List φ} {r : ρ} (ms : List (String × Value)) :
    shape.membersOfValue seen r (ms.filter fun m => (shape.field? m.1).isSome)
      = shape.membersOfValue seen r ms := by
  induction ms generalizing seen r with
  | nil => rfl
  | cons m ms ih =>
    obtain ⟨k, v⟩ := m
    rcases hk : shape.field? k with _ | f
    · rw [List.filter_cons_of_neg (by simp [hk]), membersOfValue, hk]
      exact ih
    · rw [List.filter_cons_of_pos (by simp [hk]), membersOfValue, membersOfValue, hk]
      simp only [ih]

variable {α : Type} {get : φ → ρ → α} {Reads : φ → Value → α → Prop}

/-- **Putting members in order does not show** as long as each field is named
once at most. -/
theorem readValue_ofMembers (h : shape.Lawful get Reads) {ms : List (String × Value)}
    (honce : ∀ f, (ms.map Prod.fst).count (shape.name f) ≤ 1) :
    (shape.readValue (.ofMembers ms)).toOption
      = (shape.membersOfValue [] shape.default ms).toOption := by
  have hknown : ((ms.filter fun m => (shape.field? m.1).isSome).map Prod.fst).Nodup := by
    refine List.nodup_iff_count_le_one.2 fun k => ?_
    have hle := (List.filter_sublist (p := fun m => (shape.field? m.1).isSome)
      (l := ms)).map Prod.fst |>.count_le k
    rcases hk : shape.field? k with _ | f
    · have hnone : k ∉ (ms.filter fun m => (shape.field? m.1).isSome).map Prod.fst := by
        intro hin
        obtain ⟨m, hm, rfl⟩ := List.mem_map.1 hin
        have hfield := (List.mem_filter.1 hm).2
        rw [hk] at hfield
        cases hfield
      rw [List.count_eq_zero.2 hnone]
      exact Nat.zero_le 1
    · rw [← name_of_field? hk] at hle ⊢
      exact Nat.le_trans hle (honce f)
  rw [← membersOfValue_filter, Value.ofMembers_eq]
  refine readValue_object_congr h (Value.nodup_merged ms) hknown fun f v => ?_
  rw [Value.mem_merged_iff (honce f), List.mem_filter, h.field?_name]
  exact (and_iff_left rfl).symm

/-- Members are read as their values are. -/
theorem membersOfDocument_eq {ms : List Document.Member} {vs : List (String × Value)}
    (hvs : Document.memberValues? ms = some vs) (hfields : shape.FieldsAgree (.object ms))
    {seen : List φ} {r : ρ} :
    shape.membersOfDocument seen r ms = (shape.membersOfValue seen r vs).toOption := by
  induction ms generalizing vs seen r with
  | nil =>
    obtain rfl := Option.some.inj hvs
    rfl
  | cons m ms ih =>
    obtain ⟨k, d⟩ := m
    obtain ⟨cs, v, ws, rfl, hv, hws, rfl⟩ := Document.memberValues?_cons_iff.1 hvs
    have hrest : shape.FieldsAgree (.object ms) := fun f e he =>
      hfields f e (mem_given_cons_iff.2 (.inr he))
    rw [membersOfDocument, membersOfValue]
    show Option.bind (some cs) _ = _
    rw [Option.bind_some]
    unfold memberOfDocument
    rcases hk : shape.field? (String.ofList cs) with _ | f
    · exact ih hws hrest
    · have hf := hfields f d (mem_given_cons_iff.2 (.inl ⟨cs, rfl, hk⟩)) v hv
      simp only
      split
      · rfl
      · rw [hf]
        rcases shape.ofValue f v with e | change
        · rfl
        · exact ih hws hrest

/-! ## Elements -/

omit [DecidableEq φ] in
/-- Elements are read as their values are, as long as there are fields for
them. -/
theorem elementsOfDocument_eq {ds : List Document} {vs : List Value} {fs : List φ} {r : ρ}
    (hvs : Document.elementValues? ds = some vs)
    (hfields : ∀ f d, (f, d) ∈ fs.zip ds → ∀ v, d.value? = some v →
      shape.ofDocument f d = (shape.ofValue f v).toOption) :
    shape.elementsOfDocument r fs ds
      = if vs.length ≤ fs.length then (shape.elementsOfValue r fs vs).toOption else none := by
  induction ds generalizing vs fs r with
  | nil =>
    obtain rfl := Option.some.inj hvs
    rw [elementsOfDocument_nil]
    cases fs <;> rfl
  | cons d ds ih =>
    obtain ⟨v, ws, hv, hws, rfl⟩ := Document.elementValues?_cons_iff.1 hvs
    obtain _ | ⟨f, fs⟩ := fs
    · rfl
    · have hf := hfields f d List.mem_cons_self v hv
      have hrest := fun g e he => hfields g e (List.mem_cons_of_mem _ he)
      simp only [elementsOfDocument, elementsOfValue, hf, List.length_cons,
        Nat.add_le_add_iff_right]
      rcases shape.ofValue f v with e | change
      · exact (ite_self none).symm
      · exact ih hws hrest

/-! ## Documents -/

/-- **A record is read from a document as from its value**, if the document
repeats no field. -/
theorem readDocument_eq_readValue (h : shape.Lawful get Reads) {d : Document} {v : Value}
    (hv : d.value? = some v) (hrepeats : ¬ shape.Repeats d) (hfields : shape.FieldsAgree d) :
    shape.readDocument d = (shape.readValue v).toOption := by
  cases d with
  | leaf t ht =>
    -- neither the document nor its value is a container
    have hscalar := eq_ok_of_toOption_eq_some hv
    cases t with
    | null | bool b =>
      cases hscalar
      rfl
    | number w | string w =>
      obtain ⟨a, rfl, rfl⟩ := eq_ok_of_map_eq_ok hscalar
      rfl
    | _ => cases hscalar
  | array ds =>
    obtain ⟨vs, hvs, rfl⟩ := Option.map_eq_some_iff.1 hv
    rw [readDocument, elementsOfDocument_eq hvs hfields, readValue]
    rcases shape.elementsOfValue shape.default shape.fields vs with e | r
    · exact ite_self none
    · by_cases hlength : vs.length ≤ shape.fields.length
      · simp only [if_pos hlength, if_neg (Nat.not_lt.2 hlength)]
        rfl
      · simp only [if_neg hlength, if_pos (Nat.not_le.1 hlength)]
        rfl
  | object ms =>
    obtain ⟨vs, hvs, rfl⟩ := Option.map_eq_some_iff.1 hv
    have honce : ∀ f, (vs.map Prod.fst).count (shape.name f) ≤ 1 := fun f => by
      rw [Document.map_fst_of_memberValues? hvs]
      exact Nat.le_of_not_lt fun htwice => hrepeats ⟨f, htwice⟩
    rw [readDocument, membersOfDocument_eq hvs hfields, readValue_ofMembers h honce]

/-- **A record is read from a text as from the value** of the document that is written there. -/
theorem readText_ok_iff_readValue (h : shape.Lawful get Reads) (hdocuments : shape.ReadsDocuments)
    {cs : List Char} {d : Document} {v : Value} {r : ρ} (hd : d.WrittenIn cs)
    (hv : d.value? = some v) (hrepeats : ¬ shape.Repeats d) (hfields : shape.FieldsAgree d) :
    shape.readText cs = .ok r ↔ shape.readValue v = .ok r := by
  have hagree := readDocument_eq_readValue h hv hrepeats hfields
  constructor
  · intro hr
    rw [readDocument_of_readText hdocuments hd hr] at hagree
    exact eq_ok_of_toOption_eq_some hagree.symm
  · intro hr
    rw [hr] at hagree
    exact (readText_ok_iff hdocuments).2 ⟨d, hd, hagree⟩

end RecordShape

end Herald.Json
