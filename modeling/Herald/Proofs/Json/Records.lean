import Herald.Json.Record
import Mathlib.Data.List.Nodup
/-!
# What reading a record from a value means

A record read from an object is the record of defaults, overridden by the
members that name a field; read from an array, it is what the object naming
the first fields in order would give. `OverridesDefaults` says so, for a
shape whose fields are known by what they hold (`get`) and by which values
stand for it (`Reads`). It rests on what `Lawful` asks of the shape: names
that tell the fields apart, and changes that set one field and no other.

The walk over the members is described by `Overridden`, which forgets their
order. It determines the record, so nothing else has to be known about the
walk.
-/

namespace Herald.Json

namespace RecordShape

variable {ρ φ α : Type}

/-! ## The two descriptions -/

/-- **A shape whose fields stand for themselves.** Each field has a name of
its own, and reading it from a value changes what the field holds, to what
the value stands for, and leaves the other fields alone. -/
structure Lawful (shape : RecordShape ρ φ) (get : φ → ρ → α) (Reads : φ → Value → α → Prop) :
    Prop where
  /-- The fields are all there. -/
  complete : ∀ f, f ∈ shape.fields
  /-- No field is listed twice. -/
  nodup : shape.fields.Nodup
  /-- No two fields share a name. -/
  name_injective : ∀ f g, shape.name f = shape.name g → f = g
  /-- A value that is read stands for what its field then holds. -/
  change_of_ok : ∀ f v change, shape.ofValue f v = .ok change →
    ∃ a, Reads f v a ∧ ∀ r, get f (change r) = a ∧ ∀ g ≠ f, get g (change r) = get g r
  /-- A value that is refused stands for nothing. -/
  not_reads_of_error : ∀ f v e, shape.ofValue f v = .error e → ∀ a, ¬ Reads f v a
  /-- A value stands for one thing at most. -/
  reads_unique : ∀ f v a b, Reads f v a → Reads f v b → a = b
  /-- A record is what its fields hold. -/
  ext : ∀ r r', (∀ f, get f r = get f r') → r = r'

/-- A record overridden by some members: a field that is named holds what
its member stands for, and any other what it held before. -/
def Overridden (shape : RecordShape ρ φ) (get : φ → ρ → α) (Reads : φ → Value → α → Prop)
    (base : ρ) (ms : List (String × Value)) (r : ρ) : Prop :=
  ∀ f, (∀ v, (shape.name f, v) ∈ ms → Reads f v (get f r))
    ∧ ((∀ v, (shape.name f, v) ∉ ms) → get f r = get f base)

/-- **Reading is overriding the defaults.** The members of an object are those
of a map, so their names are distinct. -/
structure OverridesDefaults [DecidableEq φ] (shape : RecordShape ρ φ) (get : φ → ρ → α)
    (Reads : φ → Value → α → Prop) : Prop where
  /-- An object is read exactly when every member that names a field holds a
  value for that field. -/
  object_ok : ∀ ms, (ms.map Prod.fst).Nodup →
    ((∃ r, shape.readValue (.object ms) = .ok r)
      ↔ ∀ f v, (shape.name f, v) ∈ ms → ∃ a, Reads f v a)
  /-- Each field is then what its member stands for, or the default where
  there is no such member. -/
  object_eq : ∀ ms r, (ms.map Prod.fst).Nodup → shape.readValue (.object ms) = .ok r →
    shape.Overridden get Reads shape.default ms r
  /-- Neither members of other names nor the order of the members matter to
  whether an object is read, or to what it is read as. -/
  object_congr : ∀ ms ms', (ms.map Prod.fst).Nodup → (ms'.map Prod.fst).Nodup →
    (∀ f v, (shape.name f, v) ∈ ms ↔ (shape.name f, v) ∈ ms') →
    (shape.readValue (.object ms)).toOption = (shape.readValue (.object ms')).toOption
  /-- An array is read exactly when it has no more elements than there are
  fields, and each is a value for the field at its position. -/
  array_ok : ∀ vs, (∃ r, shape.readValue (.array vs) = .ok r)
    ↔ vs.length ≤ shape.fields.length ∧ ∀ f v, (f, v) ∈ shape.fields.zip vs → ∃ a, Reads f v a
  /-- It gives what the object that names those fields gives. -/
  array_eq : ∀ vs, vs.length ≤ shape.fields.length →
    shape.readValue (.array vs) = shape.readValue (.object ((shape.fields.map shape.name).zip vs))
  /-- Every other value is refused. -/
  other : ∀ v, (∀ ms, v ≠ .object ms) → (∀ vs, v ≠ .array vs) → ∀ r, shape.readValue v ≠ .ok r
  /-- `null` is refused in place of any field. -/
  null_refused : ∀ f a, ¬ Reads f .null a

variable {shape : RecordShape ρ φ} {get : φ → ρ → α} {Reads : φ → Value → α → Prop}

/-! ## Fields and names -/

/-- What is found by a name has it. -/
theorem name_of_field? {k : String} {f : φ} (hf : shape.field? k = some f) : shape.name f = k := by
  have hfound := List.find?_some hf
  exact eq_of_beq hfound

/-- A field is found by its name. -/
theorem Lawful.field?_name (h : shape.Lawful get Reads) (f : φ) :
    shape.field? (shape.name f) = some f := by
  rcases hg : shape.field? (shape.name f) with _ | g
  · have hnone := List.find?_eq_none.1 hg f (h.complete f)
    exact absurd (beq_self_eq_true _) hnone
  · rw [h.name_injective g f (name_of_field? hg)]

/-- A name by which nothing is found is no field's. -/
theorem Lawful.name_ne_of_field? (h : shape.Lawful get Reads) {k : String}
    (hk : shape.field? k = none) (f : φ) : shape.name f ≠ k := by
  rintro rfl
  rw [h.field?_name] at hk
  cases hk

/-- A member of another name names no field. -/
theorem Lawful.mem_cons_other (h : shape.Lawful get Reads) {k : String} {v w : Value}
    {ms : List (String × Value)} {f : φ} (hk : shape.field? k = none) :
    (shape.name f, w) ∈ (k, v) :: ms ↔ (shape.name f, w) ∈ ms := by
  rw [List.mem_cons]
  refine or_iff_right fun heq => ?_
  exact h.name_ne_of_field? hk f (Prod.ext_iff.1 heq).1

/-- A member that names one field does not name another. -/
theorem Lawful.mem_cons_of_ne (h : shape.Lawful get Reads) {v w : Value}
    {ms : List (String × Value)} {f g : φ} (hg : g ≠ f) :
    (shape.name g, w) ∈ (shape.name f, v) :: ms ↔ (shape.name g, w) ∈ ms := by
  rw [List.mem_cons]
  refine or_iff_right fun heq => hg ?_
  exact h.name_injective g f (Prod.ext_iff.1 heq).1

/-- Where names are distinct, the first member is the only one of its name. -/
theorem mem_cons_self_iff {k : String} {v w : Value} {ms : List (String × Value)}
    (hk : k ∉ ms.map Prod.fst) : (k, w) ∈ (k, v) :: ms ↔ w = v := by
  rw [List.mem_cons]
  constructor
  · rintro (heq | hw)
    · exact (Prod.ext_iff.1 heq).2
    · exact absurd (List.mem_map_of_mem hw) hk
  · rintro rfl
    exact .inl rfl

/-! ## Elements and the fields at their positions -/

/-- The members an array stands for name a field by its position. -/
theorem Lawful.mem_zip_names (h : shape.Lawful get Reads) {fs : List φ} {vs : List Value} {f : φ}
    {v : Value} : (shape.name f, v) ∈ (fs.map shape.name).zip vs ↔ (f, v) ∈ fs.zip vs := by
  rw [← List.map_id vs, List.zip_map, List.map_id, List.mem_map]
  constructor
  · rintro ⟨⟨g, w⟩, hgw, heq⟩
    obtain ⟨hname, hw⟩ := Prod.ext_iff.1 heq
    obtain rfl := h.name_injective g f hname
    obtain rfl : w = v := hw
    exact hgw
  · exact fun hfv => ⟨(f, v), hfv, rfl⟩

/-- Their names are distinct. -/
theorem Lawful.nodup_zip_names (h : shape.Lawful get Reads) (vs : List Value) :
    (((shape.fields.map shape.name).zip vs).map Prod.fst).Nodup := by
  have hnames : (shape.fields.map shape.name).Nodup :=
    List.Nodup.map_on (fun f _ g _ => h.name_injective f g) h.nodup
  rw [List.zip_eq_zip_take_min, List.map_fst_zip (by simp)]
  exact hnames.sublist (List.take_sublist _ _)

/-! ## Overriding, member by member -/

/-- No members change nothing. -/
theorem overridden_nil (base : ρ) : shape.Overridden get Reads base [] base :=
  fun _ => ⟨fun _ hv => absurd hv List.not_mem_nil, fun _ => rfl⟩

/-- A member of another name changes nothing. -/
theorem Overridden.cons_other (h : shape.Lawful get Reads) {k : String} {v : Value} {base r : ρ}
    {ms : List (String × Value)} (hk : shape.field? k = none)
    (ho : shape.Overridden get Reads base ms r) :
    shape.Overridden get Reads base ((k, v) :: ms) r := by
  intro f
  obtain ⟨hgiven, habsent⟩ := ho f
  refine ⟨fun w hw => hgiven w ((h.mem_cons_other hk).1 hw), fun hnone => habsent fun w hw => ?_⟩
  exact hnone w ((h.mem_cons_other hk).2 hw)

/-- A member that names a field changes this field, for the rest to keep. -/
theorem Overridden.cons_field (h : shape.Lawful get Reads) {f : φ} {v : Value} {base r : ρ}
    {ms : List (String × Value)} {change : ρ → ρ} (hc : shape.ofValue f v = .ok change)
    (hf : shape.name f ∉ ms.map Prod.fst)
    (ho : shape.Overridden get Reads (change base) ms r) :
    shape.Overridden get Reads base ((shape.name f, v) :: ms) r := by
  obtain ⟨a, hreads, hset⟩ := h.change_of_ok f v change hc
  obtain ⟨hself, hothers⟩ := hset base
  intro g
  obtain ⟨hgiven, habsent⟩ := ho g
  rcases eq_or_ne g f with rfl | hg
  · have hkept : get g r = a := by
      rw [habsent fun w hw => hf (List.mem_map_of_mem hw), hself]
    refine ⟨fun w hw => ?_, fun hnone => absurd List.mem_cons_self (hnone v)⟩
    rw [(mem_cons_self_iff hf).1 hw, hkept]
    exact hreads
  · refine ⟨fun w hw => hgiven w ((h.mem_cons_of_ne hg).1 hw), fun hnone => ?_⟩
    rw [habsent fun w hw => hnone w ((h.mem_cons_of_ne hg).2 hw), hothers g hg]

/-- **The members that name a field determine the record.** -/
theorem Overridden.unique (h : shape.Lawful get Reads) {base r r' : ρ}
    {ms ms' : List (String × Value)}
    (hms : ∀ f v, (shape.name f, v) ∈ ms ↔ (shape.name f, v) ∈ ms')
    (hr : shape.Overridden get Reads base ms r) (hr' : shape.Overridden get Reads base ms' r') :
    r = r' := by
  refine h.ext r r' fun f => ?_
  obtain ⟨hgiven, habsent⟩ := hr f
  obtain ⟨hgiven', habsent'⟩ := hr' f
  by_cases hv : ∃ v, (shape.name f, v) ∈ ms
  · obtain ⟨v, hv⟩ := hv
    exact h.reads_unique f v _ _ (hgiven v hv) (hgiven' v ((hms f v).1 hv))
  · have hnone : ∀ v, (shape.name f, v) ∉ ms := fun v hm => hv ⟨v, hm⟩
    rw [habsent hnone, habsent' fun v hm => hnone v ((hms f v).2 hm)]

/-! ## The walk over the members -/

variable [DecidableEq φ]

/-- **What the walk gives is the record it started from, overridden.** -/
theorem overridden_of_membersOfValue (h : shape.Lawful get Reads) {ms : List (String × Value)}
    {seen : List φ} {base r : ρ} (hnames : (ms.map Prod.fst).Nodup)
    (hr : shape.membersOfValue seen base ms = .ok r) :
    shape.Overridden get Reads base ms r := by
  induction ms generalizing seen base with
  | nil =>
    cases hr
    exact overridden_nil r
  | cons m ms ih =>
    obtain ⟨k, v⟩ := m
    obtain ⟨hk, hrest⟩ := List.nodup_cons.1 hnames
    rw [membersOfValue] at hr
    rcases hf : shape.field? k with _ | f
    · simp only [hf] at hr
      exact (ih hrest hr).cons_other h hf
    · obtain rfl := name_of_field? hf
      simp only [hf] at hr
      split at hr
      · cases hr
      · rcases hc : shape.ofValue f v with e | change
        · rw [hc] at hr
          cases hr
        · rw [hc] at hr
          exact (ih hrest hr).cons_field h hc hk

/-- **The walk succeeds exactly when every member that names a field holds a
value for it.** None of the fields given before may be named again. -/
theorem membersOfValue_ok_iff (h : shape.Lawful get Reads) {ms : List (String × Value)}
    {seen : List φ} {base : ρ} (hnames : (ms.map Prod.fst).Nodup)
    (hseen : ∀ f ∈ seen, ∀ v, (shape.name f, v) ∉ ms) :
    (∃ r, shape.membersOfValue seen base ms = .ok r)
      ↔ ∀ f v, (shape.name f, v) ∈ ms → ∃ a, Reads f v a := by
  induction ms generalizing seen base with
  | nil => exact ⟨fun _ _ _ hv => absurd hv List.not_mem_nil, fun _ => ⟨base, rfl⟩⟩
  | cons m ms ih =>
    obtain ⟨k, v⟩ := m
    obtain ⟨hk, hrest⟩ := List.nodup_cons.1 hnames
    rw [membersOfValue]
    rcases hf : shape.field? k with _ | f
    · simp only
      rw [ih hrest fun g hg w hw => hseen g hg w (List.mem_cons_of_mem _ hw)]
      simp only [h.mem_cons_other hf]
    · obtain rfl := name_of_field? hf
      have hfresh : f ∉ seen := fun hin => hseen f hin v List.mem_cons_self
      -- from here on the field counts as given, and is not named again
      have hseen' : ∀ g ∈ f :: seen, ∀ w, (shape.name g, w) ∉ ms := by
        rintro g hg w hw
        rcases List.mem_cons.1 hg with rfl | hg
        · exact hk (List.mem_map.2 ⟨_, hw, rfl⟩)
        · exact hseen g hg w (List.mem_cons_of_mem _ hw)
      simp only [if_neg hfresh]
      rcases hc : shape.ofValue f v with e | change
      · constructor
        · rintro ⟨r, hr⟩
          cases hr
        · intro hall
          obtain ⟨a, ha⟩ := hall f v List.mem_cons_self
          exact absurd ha (h.not_reads_of_error f v e hc a)
      · obtain ⟨a, hreads, -⟩ := h.change_of_ok f v change hc
        refine (ih hrest hseen').trans ⟨fun hall g w hw => ?_, ?_⟩
        · rcases eq_or_ne g f with rfl | hg
          · rw [(mem_cons_self_iff hk).1 hw]
            exact ⟨a, hreads⟩
          · exact hall g w ((h.mem_cons_of_ne hg).1 hw)
        · exact fun hall g w hw => hall g w (List.mem_cons_of_mem _ hw)

/-- **Elements are read as the members that name their fields.** -/
theorem elementsOfValue_eq (h : shape.Lawful get Reads) (seen : List φ) {fs : List φ} {base : ρ}
    {vs : List Value} (hnodup : fs.Nodup) (hseen : ∀ f ∈ fs, f ∉ seen) :
    shape.elementsOfValue base fs vs
      = shape.membersOfValue seen base ((fs.map shape.name).zip vs) := by
  induction fs generalizing vs seen base with
  | nil => rfl
  | cons f fs ih =>
    obtain ⟨hf, hfs⟩ := List.nodup_cons.1 hnodup
    rcases vs with _ | ⟨v, vs⟩
    · rfl
    · have hseen' : ∀ g ∈ fs, g ∉ f :: seen := by
        intro g hg hin
        rcases List.mem_cons.1 hin with rfl | hin
        · exact hf hg
        · exact hseen g (List.mem_cons_of_mem _ hg) hin
      simp only [elementsOfValue, List.map_cons, List.zip_cons_cons, membersOfValue,
        h.field?_name, if_neg (hseen f List.mem_cons_self)]
      rcases shape.ofValue f v with e | change
      · rfl
      · exact ih (f :: seen) hfs hseen'

/-! ## Objects and arrays -/

/-- An object is read exactly when its members suit the fields they name. -/
theorem readValue_object_ok_iff (h : shape.Lawful get Reads) {ms : List (String × Value)}
    (hms : (ms.map Prod.fst).Nodup) :
    (∃ r, shape.readValue (.object ms) = .ok r)
      ↔ ∀ f v, (shape.name f, v) ∈ ms → ∃ a, Reads f v a :=
  membersOfValue_ok_iff h hms fun _ hf => absurd hf List.not_mem_nil

/-- What an object is read as is the defaults, overridden. -/
theorem overridden_of_readValue_object (h : shape.Lawful get Reads) {ms : List (String × Value)}
    {r : ρ} (hms : (ms.map Prod.fst).Nodup) (hr : shape.readValue (.object ms) = .ok r) :
    shape.Overridden get Reads shape.default ms r :=
  overridden_of_membersOfValue h hms hr

/-- **An object is read as the defaults, overridden, and as nothing else.** -/
theorem readValue_object_eq_ok_iff (h : shape.Lawful get Reads) {ms : List (String × Value)}
    {r : ρ} (hms : (ms.map Prod.fst).Nodup) :
    shape.readValue (.object ms) = .ok r ↔ shape.Overridden get Reads shape.default ms r := by
  constructor
  · exact overridden_of_readValue_object h hms
  · intro ho
    obtain ⟨r', hr'⟩ := (readValue_object_ok_iff h hms).2 fun f v hv => ⟨_, (ho f).1 v hv⟩
    have hover := overridden_of_readValue_object h hms hr'
    rw [ho.unique h (fun _ _ => Iff.rfl) hover]
    exact hr'

/-- One of two objects with the same members for the fields is read as the
other is. -/
theorem readValue_object_of_same (h : shape.Lawful get Reads) {ms ms' : List (String × Value)}
    {r : ρ} (hms : (ms.map Prod.fst).Nodup) (hms' : (ms'.map Prod.fst).Nodup)
    (hsame : ∀ f v, (shape.name f, v) ∈ ms ↔ (shape.name f, v) ∈ ms')
    (hr : shape.readValue (.object ms) = .ok r) : shape.readValue (.object ms') = .ok r := by
  have hsuits := (readValue_object_ok_iff h hms).1 ⟨r, hr⟩
  obtain ⟨r', hr'⟩ := (readValue_object_ok_iff h hms').2
    fun f v hv => hsuits f v ((hsame f v).2 hv)
  have hover := overridden_of_readValue_object h hms hr
  rw [hover.unique h hsame (overridden_of_readValue_object h hms' hr')]
  exact hr'

/-- The members that name no field do not matter, nor does the order. -/
theorem readValue_object_congr (h : shape.Lawful get Reads) {ms ms' : List (String × Value)}
    (hms : (ms.map Prod.fst).Nodup) (hms' : (ms'.map Prod.fst).Nodup)
    (hsame : ∀ f v, (shape.name f, v) ∈ ms ↔ (shape.name f, v) ∈ ms') :
    (shape.readValue (.object ms)).toOption = (shape.readValue (.object ms')).toOption := by
  rcases hr : shape.readValue (.object ms) with e | r
  · rcases hr' : shape.readValue (.object ms') with e' | r'
    · rfl
    · have hback := readValue_object_of_same h hms' hms (fun f v => (hsame f v).symm) hr'
      rw [hr] at hback
      cases hback
  · rw [readValue_object_of_same h hms hms' hsame hr]

/-- An array that is not too long is read as the object that names the first
fields. -/
theorem readValue_array (h : shape.Lawful get Reads) {vs : List Value}
    (hlen : vs.length ≤ shape.fields.length) : shape.readValue (.array vs)
      = shape.readValue (.object ((shape.fields.map shape.name).zip vs)) := by
  simp only [readValue]
  rw [elementsOfValue_eq h [] h.nodup fun _ _ => List.not_mem_nil]
  rcases shape.membersOfValue [] shape.default _ with e | r
  · rfl
  · simp [Nat.not_lt.2 hlen]

/-- A longer one is refused. -/
theorem length_le_of_readValue_array {vs : List Value} {r : ρ}
    (hr : shape.readValue (.array vs) = .ok r) : vs.length ≤ shape.fields.length := by
  refine Nat.not_lt.1 fun hlong => ?_
  simp only [readValue, if_pos hlong] at hr
  rcases hread : shape.elementsOfValue shape.default shape.fields vs with e | r'
  all_goals
    rw [hread] at hr
    cases hr

/-- An array is read exactly when its elements suit the fields at their
positions. -/
theorem readValue_array_ok_iff (h : shape.Lawful get Reads) {vs : List Value} :
    (∃ r, shape.readValue (.array vs) = .ok r)
      ↔ vs.length ≤ shape.fields.length
        ∧ ∀ f v, (f, v) ∈ shape.fields.zip vs → ∃ a, Reads f v a := by
  have hmembers := readValue_object_ok_iff h (h.nodup_zip_names vs)
  simp only [h.mem_zip_names] at hmembers
  constructor
  · rintro ⟨r, hr⟩
    have hlen := length_le_of_readValue_array hr
    rw [readValue_array h hlen] at hr
    exact ⟨hlen, hmembers.1 ⟨r, hr⟩⟩
  · rintro ⟨hlen, hall⟩
    rw [readValue_array h hlen]
    exact hmembers.2 hall

/-- **A lawful shape overrides its defaults**, if `null` stands for nothing. -/
theorem Lawful.overridesDefaults (h : shape.Lawful get Reads)
    (hnull : ∀ f a, ¬ Reads f .null a) : shape.OverridesDefaults get Reads where
  object_ok _ hms := readValue_object_ok_iff h hms
  object_eq _ _ hms hr := overridden_of_readValue_object h hms hr
  object_congr _ _ hms hms' hsame := readValue_object_congr h hms hms' hsame
  array_ok _ := readValue_array_ok_iff h
  array_eq _ hlen := readValue_array h hlen
  other v hobj harr r hr := by
    cases v with
    | object ms => exact hobj ms rfl
    | array vs => exact harr vs rfl
    | _ => cases hr
  null_refused := hnull

end RecordShape

end Herald.Json
