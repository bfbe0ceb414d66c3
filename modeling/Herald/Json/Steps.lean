import Herald.Json.Value
/-!
# Reading has steps enough

The readers of values count their steps down from a bound. Here is why that
count never shows. What a reader takes, it takes from its tokens, so fewer
are left; and two bounds that are both large enough for the tokens give the
same result. `stepBound` is large enough, so it stands for any other.
-/

namespace Herald.Json

/-- A mapped result comes from a result. -/
theorem eq_ok_of_map_eq_ok {ε α β : Type} {x : Except ε α} {g : α → β} {b : β}
    (h : x.map g = .ok b) : ∃ a, x = .ok a ∧ g a = b := by
  cases x with
  | error e => cases h
  | ok a => cases h; exact ⟨a, rfl, rfl⟩

/-! ## Fewer tokens are left -/

/-- A name takes tokens. -/
theorem length_readName {ts rest : List Token} {k : List Char}
    (h : readName ts = .ok (k, rest)) : rest.length < ts.length := by
  unfold readName at h
  split at h
  case h_3 =>
    cases h
    simp only [List.length_cons]
    omega
  all_goals cases h

/-- A name that is passed over takes tokens. -/
theorem length_skipName {ts rest : List Token} (h : skipName ts = .ok rest) :
    rest.length < ts.length := by
  unfold skipName at h
  split at h
  case h_2 =>
    cases h
    simp only [List.length_cons]
    omega
  all_goals cases h

/-- Values, elements and members all take tokens. -/
theorem reading_shortens (bound : Nat) :
    (∀ depth ts v rest, readValue bound depth ts = .ok (v, rest) → rest.length < ts.length)
    ∧ (∀ depth ts vs rest, readElements bound depth ts = .ok (vs, rest) →
        rest.length < ts.length)
    ∧ (∀ depth ts ms rest, readMembers bound depth ts = .ok (ms, rest) →
        rest.length < ts.length) := by
  induction bound with
  | zero => simp [readValue, readElements, readMembers]
  | succ bound ih =>
    obtain ⟨ihv, ihe, ihm⟩ := ih
    refine ⟨?_, ?_, ?_⟩
    · intro depth ts v rest h
      unfold readValue at h
      split at h
      · cases h
      · cases h
      · cases h
      · cases h
        simp only [List.length_cons]
        omega
      · next eq =>
        cases eq
        obtain ⟨p, hp, hq⟩ := eq_ok_of_map_eq_ok h
        cases hq
        have := ihe _ _ _ _ hp
        simp only [List.length_cons]
        omega
      · cases h
      · cases h
        simp only [List.length_cons]
        omega
      · next eq =>
        cases eq
        obtain ⟨p, hp, hq⟩ := eq_ok_of_map_eq_ok h
        cases hq
        have := ihm _ _ _ _ hp
        simp only [List.length_cons]
        omega
      · obtain ⟨p, hp, hq⟩ := eq_ok_of_map_eq_ok h
        cases hq
        simp
    · intro depth ts vs rest h
      unfold readElements at h
      split at h
      · cases h
      · next hv =>
        have h1 := ihv _ _ _ _ hv
        cases h
        simp only [List.length_cons] at h1
        omega
      · next hv =>
        have h1 := ihv _ _ _ _ hv
        obtain ⟨p, hp, hq⟩ := eq_ok_of_map_eq_ok h
        cases hq
        have h2 := ihe _ _ _ _ hp
        simp only [List.length_cons] at h1
        omega
      · cases h
      · cases h
    · intro depth ts ms rest h
      unfold readMembers at h
      split at h
      · cases h
      · next hn =>
        have h0 := length_readName hn
        split at h
        · cases h
        · next hv =>
          have h1 := ihv _ _ _ _ hv
          cases h
          simp only [List.length_cons] at h1
          omega
        · next hv =>
          have h1 := ihv _ _ _ _ hv
          obtain ⟨p, hp, hq⟩ := eq_ok_of_map_eq_ok h
          cases hq
          have h2 := ihm _ _ _ _ hp
          simp only [List.length_cons] at h1
          omega
        · cases h
        · cases h

/-- **A value takes tokens.** -/
theorem length_readValue {bound depth : Nat} {ts rest : List Token} {v : Value}
    (h : readValue bound depth ts = .ok (v, rest)) : rest.length < ts.length :=
  (reading_shortens bound).1 depth ts v rest h

/-- What is passed over are tokens too. -/
theorem skipping_shortens (bound : Nat) :
    (∀ ts rest, skipValue bound ts = .ok rest → rest.length < ts.length)
    ∧ (∀ ts rest, skipElements bound ts = .ok rest → rest.length < ts.length)
    ∧ (∀ ts rest, skipMembers bound ts = .ok rest → rest.length < ts.length) := by
  induction bound with
  | zero => simp [skipValue, skipElements, skipMembers]
  | succ bound ih =>
    obtain ⟨ihv, ihe, ihm⟩ := ih
    refine ⟨?_, ?_, ?_⟩
    · intro ts rest h
      unfold skipValue at h
      split at h
      · cases h
      · cases h
      · cases h
        simp only [List.length_cons]
        omega
      · next eq =>
        cases eq
        have := ihe _ _ h
        simp only [List.length_cons]
        omega
      · cases h
        simp only [List.length_cons]
        omega
      · next eq =>
        cases eq
        have := ihm _ _ h
        simp only [List.length_cons]
        omega
      · obtain ⟨p, hp, hq⟩ := eq_ok_of_map_eq_ok h
        cases hq
        simp
    · intro ts rest h
      unfold skipElements at h
      split at h
      · cases h
      · next hv =>
        have h1 := ihv _ _ hv
        cases h
        simp only [List.length_cons] at h1
        omega
      · next hv =>
        have h1 := ihv _ _ hv
        have h2 := ihe _ _ h
        simp only [List.length_cons] at h1
        omega
      · cases h
      · cases h
    · intro ts rest h
      unfold skipMembers at h
      split at h
      · cases h
      · next hn =>
        have h0 := length_skipName hn
        split at h
        · cases h
        · next hv =>
          have h1 := ihv _ _ hv
          cases h
          simp only [List.length_cons] at h1
          omega
        · next hv =>
          have h1 := ihv _ _ hv
          have h2 := ihm _ _ h
          simp only [List.length_cons] at h1
          omega
        · cases h
        · cases h

/-- **A value that is passed over takes tokens.** -/
theorem length_skipValue {bound : Nat} {ts rest : List Token}
    (h : skipValue bound ts = .ok rest) : rest.length < ts.length :=
  (skipping_shortens bound).1 ts rest h

/-! ## Large bounds agree -/

/-- Two bounds that are large enough for some tokens read the same. A value
takes one step more than its elements have, and elements one more than the
value they start with. -/
theorem reading_agrees (n : Nat) : ∀ m,
    (∀ depth ts, 2 * ts.length < n → 2 * ts.length < m →
      readValue n depth ts = readValue m depth ts)
    ∧ (∀ depth ts, 2 * ts.length + 1 < n → 2 * ts.length + 1 < m →
      readElements n depth ts = readElements m depth ts)
    ∧ (∀ depth ts, 2 * ts.length + 1 < n → 2 * ts.length + 1 < m →
      readMembers n depth ts = readMembers m depth ts) := by
  induction n with
  | zero =>
    intro m
    refine ⟨?_, ?_, ?_⟩ <;> intro depth ts hn <;> omega
  | succ n ih =>
    intro m
    match m with
    | 0 => refine ⟨?_, ?_, ?_⟩ <;> intro depth ts hn hm <;> omega
    | m + 1 =>
      obtain ⟨ihv, ihe, ihm⟩ := ih m
      refine ⟨?_, ?_, ?_⟩
      · intro depth ts hn hm
        unfold readValue
        split
        case h_1 eq => cases eq
        case h_5 eq =>
          cases eq
          simp only [List.length_cons] at hn hm
          rw [ihe _ _ (by omega) (by omega)]
        case h_8 eq =>
          cases eq
          simp only [List.length_cons] at hn hm
          rw [ihm _ _ (by omega) (by omega)]
        all_goals rfl
      · intro depth ts hn hm
        unfold readElements
        rw [ihv depth ts (by omega) (by omega)]
        split <;> try rfl
        next hv =>
        have h1 := length_readValue hv
        simp only [List.length_cons] at h1
        rw [ihe _ _ (by omega) (by omega)]
      · intro depth ts hn hm
        unfold readMembers
        split
        · rfl
        · next hk =>
          have h0 := length_readName hk
          rw [ihv depth _ (by omega) (by omega)]
          split <;> try rfl
          next hv =>
          have h1 := length_readValue hv
          simp only [List.length_cons] at h1
          rw [ihm _ _ (by omega) (by omega)]

/-- **The bound of a reading does not show**, once it is large enough. -/
theorem readValue_stepBound {bound depth : Nat} {ts : List Token}
    (h : 2 * ts.length < bound) :
    readValue bound depth ts = readValue (stepBound ts) depth ts :=
  (reading_agrees bound _).1 depth ts h (by simp only [stepBound]; omega)

/-- Two bounds that are large enough for some tokens skip the same. -/
theorem skipping_agrees (n : Nat) : ∀ m,
    (∀ ts, 2 * ts.length < n → 2 * ts.length < m → skipValue n ts = skipValue m ts)
    ∧ (∀ ts, 2 * ts.length + 1 < n → 2 * ts.length + 1 < m →
      skipElements n ts = skipElements m ts)
    ∧ (∀ ts, 2 * ts.length + 1 < n → 2 * ts.length + 1 < m →
      skipMembers n ts = skipMembers m ts) := by
  induction n with
  | zero =>
    intro m
    refine ⟨?_, ?_, ?_⟩ <;> intro ts hn <;> omega
  | succ n ih =>
    intro m
    match m with
    | 0 => refine ⟨?_, ?_, ?_⟩ <;> intro ts hn hm <;> omega
    | m + 1 =>
      obtain ⟨ihv, ihe, ihm⟩ := ih m
      refine ⟨?_, ?_, ?_⟩
      · intro ts hn hm
        unfold skipValue
        split
        case h_1 eq => cases eq
        case h_4 eq =>
          cases eq
          simp only [List.length_cons] at hn hm
          exact ihe _ (by omega) (by omega)
        case h_6 eq =>
          cases eq
          simp only [List.length_cons] at hn hm
          exact ihm _ (by omega) (by omega)
        all_goals rfl
      · intro ts hn hm
        unfold skipElements
        rw [ihv ts (by omega) (by omega)]
        split <;> try rfl
        next hv =>
        have h1 := length_skipValue hv
        simp only [List.length_cons] at h1
        exact ihe _ (by omega) (by omega)
      · intro ts hn hm
        unfold skipMembers
        split
        · rfl
        · next hk =>
          have h0 := length_skipName hk
          rw [ihv _ (by omega) (by omega)]
          split <;> try rfl
          next hv =>
          have h1 := length_skipValue hv
          simp only [List.length_cons] at h1
          exact ihm _ (by omega) (by omega)

/-- **The bound of a skip does not show** either. -/
theorem skipValue_stepBound {bound : Nat} {ts : List Token} (h : 2 * ts.length < bound) :
    skipValue bound ts = skipValue (stepBound ts) ts :=
  (skipping_agrees bound _).1 ts h (by simp only [stepBound]; omega)

end Herald.Json
