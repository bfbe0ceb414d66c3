import Herald.Json.Record
import Herald.Proofs.Json.Documents
/-!
# Records read from documents

Reading a record straight from a text stops at the first problem and passes
over the members it does not know. Seen from behind, it reads one document,
by the same rules as it reads a value: `readDocument` says what the record of
a document is, and `readTokens_ok_iff` that nothing else is ever read. What
is asked of the fields is the same of them, `ReadsDocuments`, so that a
record can be a field of another one.
-/

namespace Herald.Json

/-- A result with its faults named otherwise is the same result. -/
theorem eq_ok_of_mapError_eq_ok {ε ε' α : Type} {x : Except ε α} {g : ε → ε'} {a : α}
    (h : x.mapError g = .ok a) : x = .ok a := by
  cases x with
  | error e => cases h
  | ok a' =>
    cases h
    rfl

/-- A result of two steps comes from a result of the first. -/
theorem eq_ok_of_bind_eq_ok {ε α β : Type} {x : Except ε α} {g : α → Except ε β} {b : β}
    (h : x.bind g = .ok b) : ∃ a, x = .ok a ∧ g a = .ok b := by
  cases x with
  | error e => cases h
  | ok a => exact ⟨a, rfl, h⟩

/-- What is kept of a result is the result. -/
theorem eq_ok_of_toOption_eq_some {ε α : Type} {x : Except ε α} {a : α}
    (h : x.toOption = some a) : x = .ok a := by
  cases x with
  | error e => cases h
  | ok a' =>
    obtain rfl := Option.some.inj h
    rfl

namespace RecordShape

variable {ρ φ : Type} (shape : RecordShape ρ φ)

/-! ## What is read from a document -/

/-- A field's change, read from a document. -/
def ofDocument (f : φ) (d : Document) : Option (ρ → ρ) :=
  (shape.ofTokens f d.tokens).toOption.map Prod.fst

/-- **Fields are read from documents**: from the one that the tokens start
with, whatever stands behind it. -/
def ReadsDocuments : Prop :=
  ∀ f ts change rest, shape.ofTokens f ts = .ok (change, rest)
    ↔ ∃ d : Document, ts = d.tokens ++ rest ∧ shape.ofDocument f d = some change

/-- Elements against the fields. -/
def elementsOfDocument (r : ρ) : List φ → List Document → Option ρ
  | _, [] => some r
  | [], _ :: _ => none
  | f :: fs, d :: ds => do
    let change ← shape.ofDocument f d
    elementsOfDocument (change r) fs ds

variable [DecidableEq φ]

/-- What stands under a name: for a field its change, and nothing for another
name. -/
def memberOfDocument (seen : List φ) (name : String) (d : Document) :
    Option (Option (φ × (ρ → ρ))) :=
  match shape.field? name with
  | none => some none
  | some f => if f ∈ seen then none else (shape.ofDocument f d).map fun change => (f, change)

/-- Members in order; `seen` are the fields given before. -/
def membersOfDocument (seen : List φ) (r : ρ) : List Document.Member → Option ρ
  | [] => some r
  | (k, d) :: ms => do
    let name ← k.toOption
    let change ← shape.memberOfDocument seen (String.ofList name) d
    membersOfDocument (change.elim seen fun c => c.1 :: seen) (change.elim r fun c => c.2 r) ms

/-- **The record of a document.** -/
def readDocument : Document → Option ρ
  | .leaf _ _ => none
  | .array ds => shape.elementsOfDocument shape.default shape.fields ds
  | .object ms => shape.membersOfDocument [] shape.default ms

variable {shape}

/-! ## Members -/

omit [DecidableEq φ] in
/-- A name is a string that can be read. -/
theorem memberName_ok_iff {ts rest : List Token} {name : String} :
    memberName ts = .ok (name, rest)
      ↔ ∃ cs, ts = .string (.ok cs) :: rest ∧ String.ofList cs = name := by
  constructor
  · intro h
    unfold memberName at h
    split at h
    case h_2 v rest' =>
      rcases v with e | cs
      · cases h
      · cases h
        exact ⟨cs, rfl, rfl⟩
    all_goals cases h
  · rintro ⟨cs, rfl, rfl⟩
    rfl

omit [DecidableEq φ] in
/-- A colon is a token. -/
theorem readColon_ok_iff {ts rest : List Token} :
    readColon ts = .ok rest ↔ ts = .colon :: rest := by
  constructor
  · intro h
    unfold readColon at h
    split at h
    case h_2 =>
      cases h
      rfl
    all_goals cases h
  · rintro rfl
    rfl

omit [DecidableEq φ] in
/-- A field is read from the whole of its document. -/
theorem ReadsDocuments.ofTokens (h : shape.ReadsDocuments) {f : φ} {d : Document}
    {change : ρ → ρ} (hd : shape.ofDocument f d = some change) (rest : List Token) :
    shape.ofTokens f (d.tokens ++ rest) = .ok (change, rest) :=
  (h f _ change rest).2 ⟨d, rfl, hd⟩

/-- **What stands behind a name is read from a document.** A member of
another name is passed over, so any document will do for it. -/
theorem memberOfTokens_ok_iff (h : shape.ReadsDocuments) {seen : List φ} {name : String}
    {ts rest : List Token} {change : Option (φ × (ρ → ρ))} :
    shape.memberOfTokens seen name ts = .ok (change, rest)
      ↔ ∃ d : Document, ts = .colon :: (d.tokens ++ rest)
          ∧ shape.memberOfDocument seen name d = some change := by
  unfold memberOfTokens memberOfDocument
  rcases shape.field? name with _ | f
  · constructor
    · intro hr
      obtain ⟨rest', hskip, heq⟩ := eq_ok_of_map_eq_ok hr
      obtain ⟨rfl, rfl⟩ := Prod.ext_iff.1 heq
      obtain ⟨ts', hcolon, hskip⟩ := eq_ok_of_bind_eq_ok (eq_ok_of_mapError_eq_ok hskip)
      obtain ⟨d, rfl⟩ := skipValue_ok_iff.1 hskip
      exact ⟨d, readColon_ok_iff.1 hcolon, rfl⟩
    · rintro ⟨d, rfl, hd⟩
      obtain rfl := Option.some.inj hd
      show ((skipValue _ (d.tokens ++ rest)).mapError ReadError.text).map _ = _
      rw [d.skipValue_tokens rest]
      rfl
  · by_cases hseen : f ∈ seen
    · simp only [if_pos hseen, reduceCtorEq, and_false, exists_false]
    · simp only [if_neg hseen]
      constructor
      · intro hr
        obtain ⟨ts', hcolon, hr⟩ := eq_ok_of_bind_eq_ok hr
        obtain ⟨p, hp, heq⟩ := eq_ok_of_map_eq_ok hr
        obtain ⟨rfl, rfl⟩ := Prod.ext_iff.1 heq
        obtain ⟨d, rfl, hd⟩ := (h f ts' p.1 p.2).1 hp
        exact ⟨d, readColon_ok_iff.1 (eq_ok_of_mapError_eq_ok hcolon), congrArg (Option.map _) hd⟩
      · rintro ⟨d, rfl, hd⟩
        obtain ⟨c, hc, rfl⟩ := Option.map_eq_some_iff.1 hd
        show (shape.ofTokens f (d.tokens ++ rest)).map _ = _
        rw [h.ofTokens hc rest]
        rfl

/-- A member of a document is read from the whole of what stands behind its name. -/
theorem memberOfTokens_of_memberOfDocument (h : shape.ReadsDocuments) {seen : List φ}
    {name : String} {d : Document} {change : Option (φ × (ρ → ρ))}
    (hd : shape.memberOfDocument seen name d = some change) (rest : List Token) :
    shape.memberOfTokens seen name (.colon :: (d.tokens ++ rest)) = .ok (change, rest) :=
  (memberOfTokens_ok_iff h).2 ⟨d, rfl, hd⟩

/-- Members are read if the first has a name and is read, and so are the
others after it. -/
theorem membersOfDocument_cons_iff {seen : List φ} {r r' : ρ} {m : Document.Member}
    {ms : List Document.Member} :
    shape.membersOfDocument seen r (m :: ms) = some r'
      ↔ ∃ cs change, m.1 = .ok cs ∧ shape.memberOfDocument seen (String.ofList cs) m.2 = some change
          ∧ shape.membersOfDocument (change.elim seen fun c => c.1 :: seen)
              (change.elim r fun c => c.2 r) ms = some r' := by
  obtain ⟨_ | cs, d⟩ := m
  · simp [membersOfDocument, Except.toOption]
  · simp [membersOfDocument, Except.toOption, Option.bind_eq_some_iff]

/-- Members that are read are those of an object in a document. -/
theorem exists_members_of_membersOfTokens (h : shape.ReadsDocuments) {bound : Nat}
    {seen : List φ} {r r' : ρ} {ts rest : List Token}
    (hr : shape.membersOfTokens seen r bound ts = .ok (r', rest)) :
    ∃ m ms, ts = Document.membersTokens (m :: ms) ++ rest
      ∧ shape.membersOfDocument seen r (m :: ms) = some r' := by
  induction bound generalizing seen r ts with
  | zero => cases hr
  | succ bound ih =>
    unfold membersOfTokens at hr
    split at hr
    · cases hr
    · next name ts' hname =>
      obtain ⟨cs, rfl, rfl⟩ := memberName_ok_iff.1 hname
      split at hr
      · cases hr
      · next change ts'' hmember =>
        obtain ⟨d, rfl, hd⟩ := (memberOfTokens_ok_iff h).1 hmember
        simp only at hr
        -- the token behind the member is the end of the object or a comma
        split at hr
        · cases hr
          exact ⟨(.ok cs, d), [], (Document.membersTokens_last (.ok cs, d) rest).symm,
            membersOfDocument_cons_iff.2 ⟨cs, change, rfl, hd, rfl⟩⟩
        · obtain ⟨m, ms, rfl, hms⟩ := ih hr
          exact ⟨(.ok cs, d), m :: ms, (Document.membersTokens_more (.ok cs, d) m ms rest).symm,
            membersOfDocument_cons_iff.2 ⟨cs, change, rfl, hd, hms⟩⟩
        · cases hr
        · cases hr

/-- Members of an object in a document are read, one in a step. -/
theorem membersOfTokens_of_membersOfDocument (h : shape.ReadsDocuments) {m : Document.Member}
    {ms : List Document.Member} {bound : Nat} {seen : List φ} {r r' : ρ} (rest : List Token)
    (hbound : ms.length < bound)
    (hr : shape.membersOfDocument seen r (m :: ms) = some r') :
    shape.membersOfTokens seen r bound (Document.membersTokens (m :: ms) ++ rest)
      = .ok (r', rest) := by
  induction ms generalizing m bound seen r with
  | nil =>
    obtain _ | bound := bound
    · cases hbound
    obtain ⟨cs, change, hm, hd, hr⟩ := membersOfDocument_cons_iff.1 hr
    obtain rfl := Option.some.inj hr
    have hmember := memberOfTokens_of_memberOfDocument h hd (.closeObject :: rest)
    rw [Document.membersTokens_last, hm, membersOfTokens, memberName_ok_iff.2 ⟨cs, rfl, rfl⟩]
    simp only
    rw [hmember]
  | cons n ms ih =>
    obtain _ | bound := bound
    · cases hbound
    obtain ⟨cs, change, hm, hd, hr⟩ := membersOfDocument_cons_iff.1 hr
    have hmember := memberOfTokens_of_memberOfDocument h hd
      (.comma :: (Document.membersTokens (n :: ms) ++ rest))
    rw [Document.membersTokens_more, hm, membersOfTokens, memberName_ok_iff.2 ⟨cs, rfl, rfl⟩]
    simp only
    rw [hmember]
    exact ih (Nat.lt_of_succ_lt_succ hbound) hr

/-! ## Elements -/

omit [DecidableEq φ] in
/-- No elements change nothing. -/
theorem elementsOfDocument_nil {r : ρ} (fs : List φ) :
    shape.elementsOfDocument r fs [] = some r := by
  cases fs <;> rfl

omit [DecidableEq φ] in
/-- Elements that are read are those of an array in a document. -/
theorem exists_elements_of_elementsOfTokens (h : shape.ReadsDocuments) {fs : List φ} {r r' : ρ}
    {ts rest : List Token} (hr : shape.elementsOfTokens r fs ts = .ok (r', rest)) :
    ∃ d ds, ts = Document.elementsTokens (d :: ds) ++ rest
      ∧ shape.elementsOfDocument r fs (d :: ds) = some r' := by
  induction fs generalizing r ts with
  | nil => cases hr
  | cons f fs ih =>
    unfold elementsOfTokens at hr
    split at hr
    · cases hr
    · next change hf =>
      obtain ⟨d, rfl, hd⟩ := (h f _ _ _).1 hf
      cases hr
      refine ⟨d, [], (Document.elementsTokens_last d rest).symm, ?_⟩
      rw [elementsOfDocument, hd]
      exact elementsOfDocument_nil fs
    · next change ts' hf =>
      obtain ⟨d, rfl, hd⟩ := (h f _ _ _).1 hf
      obtain ⟨e, ds, rfl, hds⟩ := ih hr
      refine ⟨d, e :: ds, (Document.elementsTokens_more d e ds rest).symm, ?_⟩
      rw [elementsOfDocument, hd]
      exact hds
    · cases hr
    · cases hr

omit [DecidableEq φ] in
/-- Elements of an array in a document are read. -/
theorem elementsOfTokens_of_elementsOfDocument (h : shape.ReadsDocuments) {d : Document}
    {ds : List Document} {fs : List φ} {r r' : ρ} (rest : List Token)
    (hr : shape.elementsOfDocument r fs (d :: ds) = some r') :
    shape.elementsOfTokens r fs (Document.elementsTokens (d :: ds) ++ rest) = .ok (r', rest) := by
  induction ds generalizing d fs r with
  | nil =>
    obtain _ | ⟨f, fs⟩ := fs
    · cases hr
    obtain ⟨change, hd, hr⟩ := Option.bind_eq_some_iff.1 hr
    obtain rfl := Option.some.inj ((elementsOfDocument_nil fs).symm.trans hr)
    rw [Document.elementsTokens_last, elementsOfTokens, h.ofTokens hd]
  | cons e ds ih =>
    obtain _ | ⟨f, fs⟩ := fs
    · cases hr
    obtain ⟨change, hd, hr⟩ := Option.bind_eq_some_iff.1 hr
    rw [Document.elementsTokens_more, elementsOfTokens, h.ofTokens hd]
    exact ih hr

/-! ## Records -/

/-- What is read is the record of a document. -/
theorem exists_document_of_readTokens (h : shape.ReadsDocuments) {ts rest : List Token} {r : ρ}
    (hr : shape.readTokens ts = .ok (r, rest)) :
    ∃ d : Document, ts = d.tokens ++ rest ∧ shape.readDocument d = some r := by
  unfold readTokens at hr
  split at hr
  · cases hr
  · cases hr
    exact ⟨.object [], rfl, rfl⟩
  · obtain ⟨m, ms, rfl, hms⟩ := exists_members_of_membersOfTokens h hr
    exact ⟨.object (m :: ms), rfl, hms⟩
  · cases hr
    exact ⟨.array [], rfl, elementsOfDocument_nil _⟩
  · obtain ⟨d, ds, rfl, hds⟩ := exists_elements_of_elementsOfTokens h hr
    exact ⟨.array (d :: ds), rfl, hds⟩
  · split at hr
    · cases hr
    · cases hr

/-- The record of a document is read from its tokens. -/
theorem readTokens_of_readDocument (h : shape.ReadsDocuments) {d : Document} {r : ρ}
    (rest : List Token) (hd : shape.readDocument d = some r) :
    shape.readTokens (d.tokens ++ rest) = .ok (r, rest) := by
  cases d with
  | leaf t ht => cases hd
  | array ds =>
    obtain _ | ⟨d, ds⟩ := ds
    · obtain rfl := Option.some.inj ((elementsOfDocument_nil _).symm.trans hd)
      rfl
    · have helements := elementsOfTokens_of_elementsOfDocument h rest hd
      rw [Document.tokens, List.cons_append, readTokens]
      · exact helements
      · intro rest' hclose
        rw [Document.elementsTokens, List.append_assoc] at hclose
        exact d.tokens_ne_close _ _ hclose
  | object ms =>
    obtain _ | ⟨m, ms⟩ := ms
    · obtain rfl := Option.some.inj hd
      rfl
    · have hbound : ms.length < stepBound (Document.membersTokens (m :: ms) ++ rest) := by
        have hlength := Document.length_lt_membersTokens m ms
        simp only [stepBound, List.length_append]
        omega
      exact membersOfTokens_of_membersOfDocument h rest hbound hd

/-- **A record is read exactly from the documents it is the record of**,
whatever stands behind them. -/
theorem readTokens_ok_iff (h : shape.ReadsDocuments) {ts rest : List Token} {r : ρ} :
    shape.readTokens ts = .ok (r, rest)
      ↔ ∃ d : Document, ts = d.tokens ++ rest ∧ shape.readDocument d = some r := by
  constructor
  · exact exists_document_of_readTokens h
  · rintro ⟨d, rfl, hd⟩
    exact readTokens_of_readDocument h rest hd

/-- The record of a document is the one its tokens are read as. -/
theorem readDocument_eq (h : shape.ReadsDocuments) (d : Document) :
    shape.readDocument d = (shape.readTokens d.tokens).toOption.map Prod.fst := by
  rcases hd : shape.readDocument d with _ | r
  · rcases hread : shape.readTokens d.tokens with e | ⟨r, rest⟩
    · rfl
    · obtain ⟨e, htokens, he⟩ := exists_document_of_readTokens h hread
      rw [← List.append_nil d.tokens] at htokens
      obtain rfl := (Document.tokens_append_inj.1 htokens).1
      cases hd.symm.trans he
  · have hread := readTokens_of_readDocument h [] hd
    rw [List.append_nil] at hread
    rw [hread]
    rfl

/-- **A text is read as the record of the document** that is written there. -/
theorem readText_ok_iff (h : shape.ReadsDocuments) {cs : List Char} {r : ρ} :
    shape.readText cs = .ok r ↔ ∃ d : Document, d.WrittenIn cs ∧ shape.readDocument d = some r := by
  rw [readText]
  constructor
  · intro hr
    rcases hread : shape.readTokens (lex cs) with e | ⟨r', rest⟩
    · rw [hread] at hr
      cases hr
    · rw [hread] at hr
      obtain ⟨d, htokens, hd⟩ := exists_document_of_readTokens h hread
      rcases rest with _ | ⟨t, rest⟩
      · cases hr
        exact ⟨d, by rw [Document.WrittenIn, htokens, List.append_nil], hd⟩
      · cases hr
  · rintro ⟨d, hwritten, hd⟩
    have hread := readTokens_of_readDocument h [] hd
    rw [List.append_nil, ← hwritten] at hread
    rw [hread]
    rfl

/-- Of a text that is read, the document is known. -/
theorem readDocument_of_readText (h : shape.ReadsDocuments) {cs : List Char} {d : Document}
    {r : ρ} (hd : d.WrittenIn cs) (hr : shape.readText cs = .ok r) :
    shape.readDocument d = some r := by
  obtain ⟨e, he, hread⟩ := (readText_ok_iff h).1 hr
  rw [hd.unique he]
  exact hread

end RecordShape

/-! ## Scalars -/

/-- A token whose head is no container's is a scalar. -/
theorem Token.skip_of_head {t : Token} {h : Head} (ht : t.head = .ok h) (harray : h ≠ .array)
    (hobject : h ≠ .object) : t.skip = .ok () := by
  cases t with
  | openArray => exact absurd (Except.ok.inj ht).symm harray
  | openObject => exact absurd (Except.ok.inj ht).symm hobject
  | null | bool b | number v | string v => rfl
  | _ => cases ht

/-- **A scalar is read from a document**, if its judge lets no container
through. -/
theorem scalarOfTokens_ok_iff {α : Type} {judge : Head → Except Mismatch α}
    (harray : ∀ a, judge .array ≠ .ok a) (hobject : ∀ a, judge .object ≠ .ok a)
    {ts rest : List Token} {a : α} :
    scalarOfTokens judge ts = .ok (a, rest)
      ↔ ∃ d : Document, ts = d.tokens ++ rest
          ∧ (scalarOfTokens judge d.tokens).toOption.map Prod.fst = some a := by
  constructor
  · intro hr
    unfold scalarOfTokens at hr
    split at hr
    · cases hr
    · next t rest' =>
      rcases hhead : t.head with f | h
      · simp only [hhead] at hr
        cases hr
      · simp only [hhead] at hr
        obtain ⟨b, hb, heq⟩ := eq_ok_of_map_eq_ok (eq_ok_of_mapError_eq_ok hr)
        obtain ⟨rfl, rfl⟩ := Prod.ext_iff.1 heq
        have hskip : t.skip = .ok () := Token.skip_of_head hhead
          (fun h' => harray b (h' ▸ hb)) (fun h' => hobject b (h' ▸ hb))
        refine ⟨.leaf t hskip, rfl, ?_⟩
        simp only [Document.tokens, scalarOfTokens, hhead, hb]
        rfl
  · rintro ⟨d, rfl, hd⟩
    obtain ⟨⟨b, rest'⟩, hread, rfl⟩ := Option.map_eq_some_iff.1 hd
    have hread := eq_ok_of_toOption_eq_some hread
    cases d with
    | leaf t ht =>
      simp only [Document.tokens, List.singleton_append, scalarOfTokens] at hread ⊢
      rcases hhead : t.head with f | h
      · simp only [hhead] at hread
        cases hread
      · simp only [hhead] at hread ⊢
        obtain ⟨a, ha, heq⟩ := eq_ok_of_map_eq_ok (eq_ok_of_mapError_eq_ok hread)
        obtain ⟨rfl, -⟩ := Prod.ext_iff.1 heq
        rw [ha]
        rfl
    | array ds =>
      obtain ⟨a, ha, -⟩ := eq_ok_of_map_eq_ok (eq_ok_of_mapError_eq_ok hread)
      exact absurd ha (harray a)
    | object ms =>
      obtain ⟨a, ha, -⟩ := eq_ok_of_map_eq_ok (eq_ok_of_mapError_eq_ok hread)
      exact absurd ha (hobject a)

end Herald.Json
