import Herald.Json.Steps
/-!
# JSON documents as they are written

A document is a value as it stands in a text: it keeps members of one name
apart and in their order, and it has scalars that no value is made of, such
as numbers out of range. `Document.tokens` are the tokens it is written in,
and they are those of no other document (`Document.tokens_inj`).

Documents are the grammar the readers share. Tokens can be passed over
exactly when they start with a document (`skipValue_ok_iff`), and a value is
only ever read from a document, of which it is the value
(`exists_document_of_readValue`). How a document is passed over or read
depends on nothing behind it.
-/

namespace Herald.Json

/-- **A value as it is written.** -/
inductive Document where
  /-- A scalar, which is one token. It may be a number or a string that has
  no value. -/
  | leaf (t : Token) (isLeaf : t.skip = .ok ())
  | array (elements : List Document)
  /-- Members in order, each with its name, as far as that can be read. -/
  | object (members : List (Except Fault (List Char) × Document))

namespace Document

/-- A member of an object, as it is written. -/
abbrev Member := Except Fault (List Char) × Document

/-- What holds of a document if it holds of its parts holds of every
document. -/
@[induction_eliminator]
theorem induction {P : Document → Prop} (leaf : ∀ t h, P (.leaf t h))
    (array : ∀ ds, (∀ d ∈ ds, P d) → P (.array ds))
    (object : ∀ ms, (∀ m ∈ ms, P m.2) → P (.object ms)) (d : Document) : P d := by
  refine d.rec (motive_2 := fun ds => ∀ d ∈ ds, P d) (motive_3 := fun ms => ∀ m ∈ ms, P m.2)
    (motive_4 := fun m => P m.2) leaf array object ?_ ?_ ?_ ?_ ?_
  · exact fun _ hd => absurd hd List.not_mem_nil
  · exact fun _ _ hd hds => List.forall_mem_cons.2 ⟨hd, hds⟩
  · exact fun _ hm => absurd hm List.not_mem_nil
  · exact fun _ _ hm hms => List.forall_mem_cons.2 ⟨hm, hms⟩
  · exact fun _ _ hd => hd

/-! ## Tokens -/

mutual

/-- **The tokens a document is written in.** -/
def tokens : Document → List Token
  | .leaf t _ => [t]
  | .array ds => .openArray :: elementsTokens ds
  | .object ms => .openObject :: membersTokens ms

/-- Elements behind the opening bracket of their array. -/
def elementsTokens : List Document → List Token
  | [] => [.closeArray]
  | d :: ds => d.tokens ++ furtherElements ds

/-- Elements behind another one. -/
def furtherElements : List Document → List Token
  | [] => [.closeArray]
  | d :: ds => .comma :: (d.tokens ++ furtherElements ds)

/-- Members behind the opening bracket of their object. -/
def membersTokens : List Member → List Token
  | [] => [.closeObject]
  | (k, d) :: ms => .string k :: .colon :: (d.tokens ++ furtherMembers ms)

/-- Members behind another one. -/
def furtherMembers : List Member → List Token
  | [] => [.closeObject]
  | (k, d) :: ms => .comma :: .string k :: .colon :: (d.tokens ++ furtherMembers ms)

end

section Continuations

variable (d e : Document) (ds : List Document) (m n : Member)
variable (ms : List Member) (rest : List Token)

/-- Elements that follow another one stand behind a comma. -/
theorem furtherElements_cons : furtherElements (d :: ds) = .comma :: elementsTokens (d :: ds) := by
  rw [furtherElements, elementsTokens]

/-- Members that follow another one stand behind a comma. -/
theorem furtherMembers_cons : furtherMembers (m :: ms) = .comma :: membersTokens (m :: ms) := by
  rw [furtherMembers, membersTokens]

/-- Behind the last element, its array ends. -/
theorem elementsTokens_last :
    elementsTokens [d] ++ rest = d.tokens ++ .closeArray :: rest := by
  rw [elementsTokens, furtherElements, List.append_assoc, List.singleton_append]

/-- Behind any other element there are more. -/
theorem elementsTokens_more : elementsTokens (d :: e :: ds) ++ rest
    = d.tokens ++ .comma :: (elementsTokens (e :: ds) ++ rest) := by
  rw [elementsTokens, furtherElements_cons, List.append_assoc, List.cons_append]

/-- Behind the last member, its object ends. -/
theorem membersTokens_last : membersTokens [m] ++ rest
    = .string m.1 :: .colon :: (m.2.tokens ++ .closeObject :: rest) := by
  rw [membersTokens, furtherMembers, List.cons_append, List.cons_append, List.append_assoc,
    List.singleton_append]

/-- Behind any other member there are more. -/
theorem membersTokens_more : membersTokens (m :: n :: ms) ++ rest
    = .string m.1 :: .colon :: (m.2.tokens ++ .comma :: (membersTokens (n :: ms) ++ rest)) := by
  rw [membersTokens, furtherMembers_cons, List.cons_append, List.cons_append, List.append_assoc,
    List.cons_append]

/-- Members take more tokens than there are further ones. -/
theorem length_lt_membersTokens : ms.length < (membersTokens (m :: ms)).length := by
  induction ms generalizing m with
  | nil => exact Nat.succ_pos _
  | cons n ms ih =>
    rw [membersTokens, furtherMembers_cons]
    have hrest := ih n
    simp only [List.length_cons, List.length_append]
    omega

end Continuations

/-- No document starts with the end of an array. -/
theorem tokens_ne_close (d : Document) (rest rest' : List Token) :
    d.tokens ++ rest ≠ .closeArray :: rest' := by
  intro h
  cases d with
  | leaf t ht =>
    simp only [tokens, List.singleton_append, List.cons.injEq] at h
    rw [h.1] at ht
    cases ht
  | array ds =>
    simp only [tokens, List.cons_append, List.cons.injEq, reduceCtorEq, false_and] at h
  | object ms =>
    simp only [tokens, List.cons_append, List.cons.injEq, reduceCtorEq, false_and] at h

/-! ## Passing over -/

/-- A document is passed over, whatever stands behind it. -/
def IsPassed (d : Document) : Prop :=
  ∀ bound rest, 2 * d.tokens.length < bound → skipValue bound (d.tokens ++ rest) = .ok rest

/-- Elements are passed over with the end of their array. -/
theorem skipElements_elementsTokens {d : Document} {ds : List Document} (hd : d.IsPassed)
    (hds : ∀ e ∈ ds, e.IsPassed) {bound : Nat} (rest : List Token)
    (hbound : 2 * (elementsTokens (d :: ds)).length + 1 < bound) :
    skipElements bound (elementsTokens (d :: ds) ++ rest) = .ok rest := by
  induction ds generalizing d bound with
  | nil =>
    obtain _ | bound := bound
    · cases hbound
    rw [elementsTokens, List.length_append] at hbound
    rw [elementsTokens_last, skipElements, hd bound _ (by omega)]
  | cons e ds ih =>
    obtain _ | bound := bound
    · cases hbound
    rw [elementsTokens, furtherElements_cons, List.length_append, List.length_cons] at hbound
    rw [elementsTokens_more, skipElements, hd bound _ (by omega)]
    exact ih (hds e List.mem_cons_self) (fun x hx => hds x (List.mem_cons_of_mem e hx)) (by omega)

/-- Members are passed over with the end of their object, whether or not their names can be read. -/
theorem skipMembers_membersTokens {m : Member} {ms : List Member} (hm : m.2.IsPassed)
    (hms : ∀ n ∈ ms, n.2.IsPassed) {bound : Nat} (rest : List Token)
    (hbound : 2 * (membersTokens (m :: ms)).length + 1 < bound) :
    skipMembers bound (membersTokens (m :: ms) ++ rest) = .ok rest := by
  induction ms generalizing m bound with
  | nil =>
    obtain _ | bound := bound
    · cases hbound
    rw [membersTokens, List.length_cons, List.length_cons, List.length_append] at hbound
    rw [membersTokens_last, skipMembers, skipName]
    simp only
    rw [hm bound _ (by omega)]
  | cons n ms ih =>
    obtain _ | bound := bound
    · cases hbound
    rw [membersTokens, furtherMembers_cons, List.length_cons, List.length_cons,
      List.length_append, List.length_cons] at hbound
    rw [membersTokens_more, skipMembers, skipName]
    simp only
    rw [hm bound _ (by omega)]
    exact ih (hms n List.mem_cons_self) (fun x hx => hms x (List.mem_cons_of_mem n hx)) (by omega)

/-- **Every document is passed over.** -/
theorem isPassed (d : Document) : d.IsPassed := by
  induction d with
  | leaf t ht =>
    intro bound rest hbound
    obtain _ | bound := bound
    · cases hbound
    cases t with
    | null | bool b | number v | string v => rfl
    | _ => cases ht
  | array ds ih =>
    intro bound rest hbound
    obtain _ | bound := bound
    · cases hbound
    obtain _ | ⟨d, ds⟩ := ds
    · rfl
    · have hd := ih d List.mem_cons_self
      have hds := fun e he => ih e (List.mem_cons_of_mem d he)
      rw [tokens, List.length_cons] at hbound
      rw [tokens, List.cons_append, skipValue]
      · exact skipElements_elementsTokens hd hds rest (by omega)
      · intro rest' h
        rw [elementsTokens, List.append_assoc] at h
        exact d.tokens_ne_close _ _ h
  | object ms ih =>
    intro bound rest hbound
    obtain _ | bound := bound
    · cases hbound
    obtain _ | ⟨m, ms⟩ := ms
    · rfl
    · have hm := ih m List.mem_cons_self
      have hms := fun n hn => ih n (List.mem_cons_of_mem m hn)
      rw [tokens, List.length_cons] at hbound
      rw [tokens, List.cons_append, skipValue]
      · exact skipMembers_membersTokens hm hms rest (by omega)
      · intro rest' h
        rw [membersTokens] at h
        cases h

/-- The bound that the readers use is large enough. -/
theorem skipValue_tokens (d : Document) (rest : List Token) :
    skipValue (stepBound (d.tokens ++ rest)) (d.tokens ++ rest) = .ok rest := by
  refine d.isPassed _ _ ?_
  simp only [stepBound, List.length_append]
  omega

end Document

/-- What is passed over as a name is one, with its colon. -/
theorem exists_name_of_skipName {ts rest : List Token} (h : skipName ts = .ok rest) :
    ∃ k, ts = .string k :: .colon :: rest := by
  unfold skipName at h
  split at h
  case h_2 =>
    cases h
    exact ⟨_, rfl⟩
  all_goals cases h

/-- What is passed over is a document; elements and members are too, with
what ends them. -/
theorem skipping_takes (bound : Nat) :
    (∀ ts rest, skipValue bound ts = .ok rest → ∃ d : Document, ts = d.tokens ++ rest)
    ∧ (∀ ts rest, skipElements bound ts = .ok rest →
        ∃ d ds, ts = Document.elementsTokens (d :: ds) ++ rest)
    ∧ (∀ ts rest, skipMembers bound ts = .ok rest →
        ∃ m ms, ts = Document.membersTokens (m :: ms) ++ rest) := by
  induction bound with
  | zero => simp [skipValue, skipElements, skipMembers]
  | succ bound ih =>
    obtain ⟨ihv, ihe, ihm⟩ := ih
    refine ⟨?_, ?_, ?_⟩
    · intro ts rest h
      unfold skipValue at h
      split at h
      · cases h
      · cases h
      · cases h
        exact ⟨.array [], rfl⟩
      · next eq =>
        cases eq
        obtain ⟨d, ds, rfl⟩ := ihe _ _ h
        exact ⟨.array (d :: ds), rfl⟩
      · cases h
        exact ⟨.object [], rfl⟩
      · next eq =>
        cases eq
        obtain ⟨m, ms, rfl⟩ := ihm _ _ h
        exact ⟨.object (m :: ms), rfl⟩
      · obtain ⟨u, hu, rfl⟩ := eq_ok_of_map_eq_ok h
        exact ⟨.leaf _ hu, rfl⟩
    · intro ts rest h
      unfold skipElements at h
      split at h
      · cases h
      · next hv =>
        cases h
        obtain ⟨d, rfl⟩ := ihv _ _ hv
        exact ⟨d, [], (Document.elementsTokens_last d rest).symm⟩
      · next hv =>
        obtain ⟨d, rfl⟩ := ihv _ _ hv
        obtain ⟨e, ds, rfl⟩ := ihe _ _ h
        exact ⟨d, e :: ds, (Document.elementsTokens_more d e ds rest).symm⟩
      · cases h
      · cases h
    · intro ts rest h
      unfold skipMembers at h
      split at h
      · cases h
      · next hn =>
        obtain ⟨k, rfl⟩ := exists_name_of_skipName hn
        split at h
        · cases h
        · next hv =>
          cases h
          obtain ⟨d, rfl⟩ := ihv _ _ hv
          exact ⟨(k, d), [], (Document.membersTokens_last (k, d) rest).symm⟩
        · next hv =>
          obtain ⟨d, rfl⟩ := ihv _ _ hv
          obtain ⟨m, ms, rfl⟩ := ihm _ _ h
          exact ⟨(k, d), m :: ms, (Document.membersTokens_more (k, d) m ms rest).symm⟩
        · cases h
        · cases h

/-- **Tokens are passed over exactly when they start with a document**, and
what is left is what stands behind it. -/
theorem skipValue_ok_iff {ts rest : List Token} :
    skipValue (stepBound ts) ts = .ok rest ↔ ∃ d : Document, ts = d.tokens ++ rest := by
  constructor
  · exact (skipping_takes _).1 ts rest
  · rintro ⟨d, rfl⟩
    exact d.skipValue_tokens rest

namespace Document

/-! ## One document only -/

/-- Where two documents start alike, they end alike: passing over the tokens
has one result. -/
theorem rest_eq_of_tokens {d e : Document} {rest rest' : List Token}
    (h : d.tokens ++ rest = e.tokens ++ rest') : rest = rest' := by
  have hd := d.skipValue_tokens rest
  rw [h, e.skipValue_tokens rest'] at hd
  exact (Except.ok.inj hd).symm

/-- Elements behind another one are known by their tokens as they would be
without it. -/
theorem elementsTokens_eq_of_further {ds es : List Document}
    (h : furtherElements ds = furtherElements es) : elementsTokens ds = elementsTokens es := by
  cases ds <;> cases es <;> simp_all [furtherElements, elementsTokens]

/-- Members behind another one are known by their tokens as they would be without it. -/
theorem membersTokens_eq_of_further {ms ns : List Member}
    (h : furtherMembers ms = furtherMembers ns) : membersTokens ms = membersTokens ns := by
  cases ms <;> cases ns <;> simp_all [furtherMembers, membersTokens]

/-- Elements are known by their tokens if each of them is. -/
theorem elements_eq_of_tokens {ds es : List Document}
    (hds : ∀ d ∈ ds, ∀ e : Document, d.tokens = e.tokens → d = e)
    (h : elementsTokens ds = elementsTokens es) : ds = es := by
  induction ds generalizing es with
  | nil =>
    obtain _ | ⟨e, es⟩ := es
    · rfl
    · exact absurd h.symm (e.tokens_ne_close _ _)
  | cons d ds ih =>
    obtain _ | ⟨e, es⟩ := es
    · exact absurd h (d.tokens_ne_close _ _)
    · -- the first of both end at the same place, so what stands behind them is the same
      rw [elementsTokens, elementsTokens] at h
      have hrest := rest_eq_of_tokens h
      rw [hrest] at h
      have hhead := hds d List.mem_cons_self e (List.append_cancel_right h)
      have htail := ih (fun x hx => hds x (List.mem_cons_of_mem d hx))
        (elementsTokens_eq_of_further hrest)
      rw [hhead, htail]

/-- Members are, with their names. -/
theorem members_eq_of_tokens {ms ns : List Member}
    (hms : ∀ m ∈ ms, ∀ e : Document, m.2.tokens = e.tokens → m.2 = e)
    (h : membersTokens ms = membersTokens ns) : ms = ns := by
  induction ms generalizing ns with
  | nil =>
    obtain _ | ⟨n, ns⟩ := ns
    · rfl
    · cases h
  | cons m ms ih =>
    obtain _ | ⟨n, ns⟩ := ns
    · cases h
    · rw [membersTokens, membersTokens, List.cons.injEq, List.cons.injEq, Token.string.injEq] at h
      obtain ⟨hname, -, h⟩ := h
      have hrest := rest_eq_of_tokens h
      rw [hrest] at h
      have hhead := hms m List.mem_cons_self n.2 (List.append_cancel_right h)
      have htail := ih (fun x hx => hms x (List.mem_cons_of_mem m hx))
        (membersTokens_eq_of_further hrest)
      rw [htail, Prod.ext hname hhead]

/-- **A document is known by its tokens.** -/
theorem tokens_inj {d e : Document} : d.tokens = e.tokens ↔ d = e := by
  refine ⟨fun h => ?_, congrArg tokens⟩
  induction d generalizing e with
  | leaf t ht =>
    cases e with
    | leaf u hu =>
      obtain rfl := List.singleton_inj.1 h
      rfl
    | array es =>
      -- a bracket may not be passed over by itself
      obtain rfl := (List.cons.inj h).1
      cases ht
    | object ns =>
      obtain rfl := (List.cons.inj h).1
      cases ht
  | array ds ih =>
    cases e with
    | leaf u hu =>
      obtain rfl := (List.cons.inj h).1
      cases hu
    | array es => rw [elements_eq_of_tokens ih (List.cons.inj h).2]
    | object ns => cases h
  | object ms ih =>
    cases e with
    | leaf u hu =>
      obtain rfl := (List.cons.inj h).1
      cases hu
    | array es => cases h
    | object ns => rw [members_eq_of_tokens ih (List.cons.inj h).2]

/-- Neither what a document is nor where it ends can be told differently. -/
theorem tokens_append_inj {d e : Document} {rest rest' : List Token} :
    d.tokens ++ rest = e.tokens ++ rest' ↔ d = e ∧ rest = rest' := by
  constructor
  · intro h
    have hrest := rest_eq_of_tokens h
    rw [hrest] at h
    exact ⟨tokens_inj.1 (List.append_cancel_right h), hrest⟩
  · rintro ⟨rfl, rfl⟩
    rfl

/-! ## Values -/

mutual

/-- **The value of a document**, if all its scalars and names have one. -/
def value? : Document → Option Value
  | .leaf t _ => t.scalar.toOption
  | .array ds => (elementValues? ds).map .array
  | .object ms => (memberValues? ms).map .ofMembers

/-- The values of some elements. -/
def elementValues? : List Document → Option (List Value)
  | [] => some []
  | d :: ds => do
    let v ← d.value?
    let vs ← elementValues? ds
    return v :: vs

/-- The values of some members, under their names. -/
def memberValues? : List Member → Option (List (String × Value))
  | [] => some []
  | (k, d) :: ms => do
    let k ← k.toOption
    let v ← d.value?
    let vs ← memberValues? ms
    return (String.ofList k, v) :: vs

end

end Document

/-- What is read as a name is one, with its colon. -/
theorem eq_name_of_readName {ts rest : List Token} {k : List Char}
    (h : readName ts = .ok (k, rest)) : ts = .string (.ok k) :: .colon :: rest := by
  unfold readName at h
  split at h
  case h_3 =>
    cases h
    rfl
  all_goals cases h

/-- A token that is a value by itself may be passed over. -/
theorem Token.skip_of_scalar {t : Token} {v : Value} (h : t.scalar = .ok v) :
    t.skip = .ok () := by
  cases t with
  | null | bool b | number w | string w => rfl
  | _ => cases h

/-- What is read is the value of a document; and so it is for elements and
members, with what ends them. -/
theorem reading_takes (bound : Nat) :
    (∀ depth ts v rest, readValue bound depth ts = .ok (v, rest) →
        ∃ d : Document, ts = d.tokens ++ rest ∧ d.value? = some v)
    ∧ (∀ depth ts vs rest, readElements bound depth ts = .ok (vs, rest) →
        ∃ d ds, ts = Document.elementsTokens (d :: ds) ++ rest
          ∧ Document.elementValues? (d :: ds) = some vs)
    ∧ (∀ depth ts vs rest, readMembers bound depth ts = .ok (vs, rest) →
        ∃ m ms, ts = Document.membersTokens (m :: ms) ++ rest
          ∧ Document.memberValues? (m :: ms) = some vs) := by
  induction bound with
  | zero => simp [readValue, readElements, readMembers]
  | succ bound ih =>
    obtain ⟨ihv, ihe, ihm⟩ := ih
    refine ⟨?_, ?_, ?_⟩
    · intro depth ts v rest h
      unfold readValue at h
      split at h
      · cases h
      · cases h
      · cases h
      · cases h
        exact ⟨.array [], rfl, rfl⟩
      · next eq =>
        cases eq
        obtain ⟨p, hp, hq⟩ := eq_ok_of_map_eq_ok h
        cases hq
        obtain ⟨d, ds, rfl, hvs⟩ := ihe _ _ _ _ hp
        exact ⟨.array (d :: ds), rfl, congrArg (Option.map Value.array) hvs⟩
      · cases h
      · cases h
        exact ⟨.object [], rfl, rfl⟩
      · next eq =>
        cases eq
        obtain ⟨p, hp, hq⟩ := eq_ok_of_map_eq_ok h
        cases hq
        obtain ⟨m, ms, rfl, hvs⟩ := ihm _ _ _ _ hp
        exact ⟨.object (m :: ms), rfl, congrArg (Option.map Value.ofMembers) hvs⟩
      · obtain ⟨w, hw, hq⟩ := eq_ok_of_map_eq_ok h
        cases hq
        exact ⟨.leaf _ (Token.skip_of_scalar hw), rfl, congrArg Except.toOption hw⟩
    · intro depth ts vs rest h
      unfold readElements at h
      split at h
      · cases h
      · next hv =>
        cases h
        obtain ⟨d, rfl, hd⟩ := ihv _ _ _ _ hv
        refine ⟨d, [], (Document.elementsTokens_last d rest).symm, ?_⟩
        simp [Document.elementValues?, hd]
      · next hv =>
        obtain ⟨p, hp, hq⟩ := eq_ok_of_map_eq_ok h
        cases hq
        obtain ⟨d, rfl, hd⟩ := ihv _ _ _ _ hv
        obtain ⟨e, ds, rfl, hvs⟩ := ihe _ _ _ _ hp
        refine ⟨d, e :: ds, (Document.elementsTokens_more d e ds _).symm, ?_⟩
        rw [Document.elementValues?, hd, hvs]
        rfl
      · cases h
      · cases h
    · intro depth ts vs rest h
      unfold readMembers at h
      split at h
      · cases h
      · next k _ hn =>
        obtain rfl := eq_name_of_readName hn
        split at h
        · cases h
        · next hv =>
          cases h
          obtain ⟨d, rfl, hd⟩ := ihv _ _ _ _ hv
          refine ⟨(.ok k, d), [], (Document.membersTokens_last (.ok k, d) rest).symm, ?_⟩
          rw [Document.memberValues?, hd]
          rfl
        · next hv =>
          obtain ⟨p, hp, hq⟩ := eq_ok_of_map_eq_ok h
          cases hq
          obtain ⟨d, rfl, hd⟩ := ihv _ _ _ _ hv
          obtain ⟨m, ms, rfl, hvs⟩ := ihm _ _ _ _ hp
          refine ⟨(.ok k, d), m :: ms, (Document.membersTokens_more (.ok k, d) m ms _).symm, ?_⟩
          rw [Document.memberValues?, hd, hvs]
          rfl
        · cases h
        · cases h

/-- **A value is read from a document**, of which it is the value. -/
theorem exists_document_of_readValue {bound depth : Nat} {ts rest : List Token} {v : Value}
    (h : readValue bound depth ts = .ok (v, rest)) :
    ∃ d : Document, ts = d.tokens ++ rest ∧ d.value? = some v :=
  (reading_takes bound).1 depth ts v rest h

/-! ## Texts -/

/-- **A document is what a text says**, blanks and spelling apart. -/
def Document.WrittenIn (d : Document) (cs : List Char) : Prop := lex cs = d.tokens

/-- A text says one document at most. -/
theorem Document.WrittenIn.unique {d e : Document} {cs : List Char} (hd : d.WrittenIn cs)
    (he : e.WrittenIn cs) : d = e := Document.tokens_inj.1 (hd.symm.trans he)

/-- **A text that stands for a value says a document**, of which it is the
value. -/
theorem exists_document_of_ofText {cs : List Char} {v : Value} (h : Value.ofText cs = .ok v) :
    ∃ d : Document, d.WrittenIn cs ∧ d.value? = some v := by
  rw [Value.ofText] at h
  rcases hread : readValue (stepBound (lex cs)) maxDepth (lex cs) with e | ⟨w, rest⟩
  · simp only [hread] at h
    cases h
  · simp only [hread] at h
    obtain ⟨d, htokens, hvalue⟩ := exists_document_of_readValue hread
    rcases rest with _ | ⟨t, rest⟩
    · cases h
      exact ⟨d, by rw [Document.WrittenIn, htokens, List.append_nil], hvalue⟩
    · cases h

end Herald.Json
