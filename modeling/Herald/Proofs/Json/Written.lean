import Herald.Json.Record
import Herald.Proofs.Json.Lexing
/-!
# Records read from written values

A record is read from a value or straight from a text. Where every member of
an object names a field, the two ways come to the same: the text of the
object is cut into the tokens of its members, and these are gone through as
the members are (`readTokens_object`). What is asked of the fields is
`ReadsAlike`, which a scalar meets at once, and a record among the fields by
the same theorem. Members that name no field are passed over by their tokens
alone, which is not treated here.
-/

namespace Herald.Json

/-! ## Scalars -/

/-- The token of a scalar has its head. -/
theorem Value.head_of_tokens {v : Value} {t : Token} (h : v.tokens = [t]) :
    t.head = .ok v.head := by
  cases v with
  | null | bool b | number n =>
    obtain rfl := List.singleton_inj.1 h
    rfl
  | string s =>
    obtain rfl := List.singleton_inj.1 h
    show Except.ok (Head.string (String.ofList s.toList)) = _
    rw [String.ofList_toList]
    rfl
  | array vs => simp [Value.tokens] at h
  | object ms => simp [Value.tokens] at h

/-- A scalar is judged by its head either way. -/
theorem scalarOfTokens_tokens {α : Type} (judge : Head → Except Mismatch α) {v : Value}
    {t : Token} (h : v.tokens = [t]) (rest : List Token) :
    scalarOfTokens judge (v.tokens ++ rest)
      = ((judge v.head).map fun a => (a, rest)).mapError .data := by
  rw [h, List.singleton_append, scalarOfTokens, Value.head_of_tokens h]

namespace RecordShape

variable {ρ φ : Type} (shape : RecordShape ρ φ)

/-- A field is read from the tokens of a value as it is from the value. -/
def ReadsAlike (f : φ) (v : Value) : Prop :=
  ∀ rest, shape.ofTokens f (v.tokens ++ rest)
    = ((shape.ofValue f v).map fun change => (change, rest)).mapError .data

variable [DecidableEq φ] {shape}

/-! ## Members -/

/-- A name in front of its tokens. -/
theorem memberName_string (k : String) (ts : List Token) :
    memberName (.string (.ok k.toList) :: ts) = .ok (k, ts) := by
  show Except.ok (String.ofList k.toList, ts) = _
  rw [String.ofList_toList]

/-- A member whose field was given before is refused. -/
theorem memberOfTokens_of_seen {seen : List φ} {k : String} {f : φ}
    (hf : shape.field? k = some f) (hseen : f ∈ seen) (ts : List Token) :
    shape.memberOfTokens seen k ts = .error (.data (.duplicate (shape.name f))) := by
  simp only [memberOfTokens, hf, if_pos hseen]

/-- The member of another field is what its value is read as. -/
theorem memberOfTokens_of_alike {seen : List φ} {k : String} {f : φ} {v : Value}
    (hf : shape.field? k = some f) (hseen : f ∉ seen) (halike : shape.ReadsAlike f v)
    (rest : List Token) : shape.memberOfTokens seen k (.colon :: (v.tokens ++ rest))
      = ((shape.ofValue f v).map fun change => (some (f, change), rest)).mapError .data := by
  simp only [memberOfTokens, hf, if_neg hseen]
  show (shape.ofTokens f (v.tokens ++ rest)).map _ = _
  rw [halike rest]
  rcases shape.ofValue f v with e | change
  · rfl
  · rfl

/-- **A member in tokens**: its name, a colon, its value, and then the end of
the object or another member. -/
theorem membersTokens_cons (k : String) (v : Value) (ms : List (String × Value))
    (rest : List Token) : ∃ tail,
    Value.membersTokens ((k, v) :: ms) ++ .closeObject :: rest
        = .string (.ok k.toList) :: .colon :: (v.tokens ++ tail)
      ∧ (ms = [] ∧ tail = .closeObject :: rest
        ∨ ms ≠ [] ∧ tail = .comma :: (Value.membersTokens ms ++ .closeObject :: rest)) := by
  rcases ms with _ | ⟨m, ms⟩
  · exact ⟨_, rfl, .inl ⟨rfl, rfl⟩⟩
  · refine ⟨_, ?_, .inr ⟨List.cons_ne_nil m ms, rfl⟩⟩
    simp only [Value.membersTokens, List.cons_append, List.append_assoc]

section Steps

variable {seen : List φ} {r : ρ} {bound : Nat} {k : String} {f : φ} {change : ρ → ρ}
variable {ts rest : List Token}

/-- A member that is refused ends the walk. -/
theorem membersOfTokens_of_error {e : ReadError}
    (h : shape.memberOfTokens seen k ts = .error e) :
    shape.membersOfTokens seen r (bound + 1) (.string (.ok k.toList) :: ts) = .error e := by
  simp only [membersOfTokens, memberName_string, h]

/-- The closing bracket ends it with the record as it is then. -/
theorem membersOfTokens_of_close
    (h : shape.memberOfTokens seen k ts = .ok (some (f, change), .closeObject :: rest)) :
    shape.membersOfTokens seen r (bound + 1) (.string (.ok k.toList) :: ts)
      = .ok (change r, rest) := by
  simp only [membersOfTokens, memberName_string, h, Option.elim_some]

/-- A comma goes on to the next member. -/
theorem membersOfTokens_of_comma
    (h : shape.memberOfTokens seen k ts = .ok (some (f, change), .comma :: rest)) :
    shape.membersOfTokens seen r (bound + 1) (.string (.ok k.toList) :: ts)
      = shape.membersOfTokens (f :: seen) (change r) bound rest := by
  simp only [membersOfTokens, memberName_string, h, Option.elim_some]

end Steps

/-- Members take at least one token each. -/
theorem length_le_membersTokens (ms : List (String × Value)) :
    ms.length ≤ (Value.membersTokens ms).length := by
  induction ms with
  | nil => exact Nat.le_refl 0
  | cons m ms ih =>
    obtain ⟨k, v⟩ := m
    rcases ms with _ | ⟨m, ms⟩
    · simp [Value.membersTokens]
    · simp only [Value.membersTokens, List.length_cons, List.length_append] at ih ⊢
      omega

/-- **The tokens of some members are gone through as the members are.** -/
theorem membersOfTokens_membersTokens {ms : List (String × Value)} (hne : ms ≠ [])
    (hms : ∀ m ∈ ms, ∃ f, shape.field? m.1 = some f ∧ shape.ReadsAlike f m.2)
    (seen : List φ) (r : ρ) {bound : Nat} (hbound : ms.length ≤ bound) (rest : List Token) :
    shape.membersOfTokens seen r bound (Value.membersTokens ms ++ .closeObject :: rest)
      = ((shape.membersOfValue seen r ms).map fun r => (r, rest)).mapError .data := by
  induction ms generalizing seen r bound with
  | nil => exact absurd rfl hne
  | cons m ms ih =>
    obtain ⟨k, v⟩ := m
    obtain ⟨f, hf, halike⟩ := hms (k, v) List.mem_cons_self
    rcases bound with _ | bound
    · cases hbound
    obtain ⟨tail, htext, htail⟩ := membersTokens_cons k v ms rest
    rw [htext, membersOfValue]
    simp only [hf]
    by_cases hseen : f ∈ seen
    · rw [membersOfTokens_of_error (memberOfTokens_of_seen hf hseen _), if_pos hseen]
      rfl
    · have hmember := memberOfTokens_of_alike hf hseen halike tail
      rw [if_neg hseen]
      rcases hc : shape.ofValue f v with e | change
      · rw [hc] at hmember
        exact membersOfTokens_of_error hmember
      · rw [hc] at hmember
        rcases htail with ⟨rfl, rfl⟩ | ⟨hmore, rfl⟩
        · exact membersOfTokens_of_close hmember
        · have hrest := ih hmore (fun m hm => hms m (List.mem_cons_of_mem _ hm)) (f :: seen)
            (change r) (Nat.le_of_succ_le_succ hbound)
          rw [membersOfTokens_of_comma hmember, hrest]
          rfl

/-! ## Objects -/

/-- **The tokens of an object are read as the object**, if its members all
name fields that are. -/
theorem readTokens_object {ms : List (String × Value)}
    (hms : ∀ m ∈ ms, ∃ f, shape.field? m.1 = some f ∧ shape.ReadsAlike f m.2)
    (rest : List Token) : shape.readTokens ((Value.object ms).tokens ++ rest)
      = ((shape.readValue (.object ms)).map fun r => (r, rest)).mapError .data := by
  rcases ms with _ | ⟨⟨k, v⟩, ms⟩
  · rfl
  · have hlength := length_le_membersTokens ((k, v) :: ms)
    have hbound : ((k, v) :: ms).length
        ≤ stepBound (Value.membersTokens ((k, v) :: ms) ++ .closeObject :: rest) := by
      simp only [stepBound, List.length_append]
      omega
    have hmembers := membersOfTokens_membersTokens (List.cons_ne_nil (k, v) ms) hms []
      shape.default hbound rest
    obtain ⟨tail, htext, -⟩ := membersTokens_cons k v ms rest
    have htokens : (Value.object ((k, v) :: ms)).tokens ++ rest
        = .openObject :: (Value.membersTokens ((k, v) :: ms) ++ .closeObject :: rest) := by
      simp only [Value.tokens, List.cons_append, List.append_assoc, List.nil_append]
    rw [htext] at hmembers htokens
    rw [htokens]
    exact hmembers

/-- **What is read from the tokens of a value is read from its text.** -/
theorem readText_of_readTokens {v : Value} {r : ρ} (hv : v.Lexes)
    (h : ∀ rest, shape.readTokens (v.tokens ++ rest) = .ok (r, rest)) :
    shape.readText v.text = .ok r := by
  have hread := h []
  rw [List.append_nil] at hread
  rw [readText, hv.lex_text, hread]
  rfl

end RecordShape

end Herald.Json
