/-!
# Parts of a text

A text cut up at every occurrence of a character, or at the last one only.
-/

namespace Herald

/-- The parts of a text between the occurrences of a character. -/
def partsAt (sep : Char) : List Char → List (List Char)
  | [] => [[]]
  | c :: rest =>
    match partsAt sep rest with
    | [] => [[c]]
    | p :: ps => if c = sep then [] :: p :: ps else (c :: p) :: ps

/-- Parts with a character between them. -/
def joinWith (sep : Char) : List (List Char) → List Char
  | [] => []
  | [p] => p
  | p :: q :: rest => p ++ sep :: joinWith sep (q :: rest)

/-- What stands behind the last occurrence of a character; all of a text without
it. -/
def afterLast (sep : Char) (cs : List Char) : List Char :=
  (cs.reverse.takeWhile fun c => c ≠ sep).reverse

/-- There is a part at least. -/
theorem partsAt_ne_nil (sep : Char) (cs : List Char) : partsAt sep cs ≠ [] := by
  cases cs with
  | nil => simp [partsAt]
  | cons c rest =>
    simp only [partsAt]
    split
    · simp
    · split <;> simp

/-- **Nothing is lost**: the parts with the character between them are the
text. -/
theorem joinWith_partsAt (sep : Char) (cs : List Char) : joinWith sep (partsAt sep cs) = cs := by
  induction cs with
  | nil => rfl
  | cons c rest ih =>
    simp only [partsAt]
    split
    · next h => exact absurd h (partsAt_ne_nil sep rest)
    · next p ps h =>
      rw [h] at ih
      split
      · next hc =>
        subst hc
        simp [joinWith, ih]
      · cases ps with
        | nil =>
          simp only [joinWith] at ih ⊢
          rw [ih]
        | cons q qs =>
          simp only [joinWith, List.cons_append] at ih ⊢
          rw [ih]

/-- Joined parts hold what is in them and what is between them. -/
theorem mem_joinWith {sep c : Char} {ps : List (List Char)} (h : c ∈ joinWith sep ps) :
    c = sep ∨ ∃ p ∈ ps, c ∈ p := by
  fun_induction joinWith sep ps with
  | case1 => cases h
  | case2 p => exact .inr ⟨p, by simp, h⟩
  | case3 p q rest ih =>
    rcases List.mem_append.1 h with h | h
    · exact .inr ⟨p, by simp, h⟩
    · rcases List.mem_cons.1 h with h | h
      · exact .inl h
      · rcases ih h with h | ⟨r, hr, hc⟩
        · exact .inl h
        · exact .inr ⟨r, List.mem_cons_of_mem p hr, hc⟩

/-- A text without the character is one part. -/
theorem partsAt_of_notMem {sep : Char} {cs : List Char} (h : sep ∉ cs) : partsAt sep cs = [cs] := by
  induction cs with
  | nil => rfl
  | cons c rest ih =>
    simp only [List.mem_cons, not_or] at h
    simp only [partsAt, ih h.2, if_neg (Ne.symm h.1)]

/-- The first occurrence of the character ends the first part. -/
theorem partsAt_append {sep : Char} {p : List Char} (h : sep ∉ p) (rest : List Char) :
    partsAt sep (p ++ sep :: rest) = p :: partsAt sep rest := by
  induction p with
  | nil =>
    simp only [List.nil_append, partsAt]
    split
    · next hnil => exact absurd hnil (partsAt_ne_nil sep rest)
    · next hparts => simp [hparts]
  | cons c p ih =>
    simp only [List.mem_cons, not_or] at h
    simp only [List.cons_append, partsAt, ih h.2, if_neg (Ne.symm h.1)]

/-- **A text is cut at the first occurrence in one way only.** -/
theorem cut_first {sep : Char} {p q r s : List Char} (hp : sep ∉ p) (hq : sep ∉ q) :
    p ++ sep :: r = q ++ sep :: s ↔ p = q ∧ r = s := by
  refine ⟨fun h => ?_, fun ⟨hpq, hrs⟩ => hpq ▸ hrs ▸ rfl⟩
  have hparts := congrArg (partsAt sep) h
  rw [partsAt_append hp, partsAt_append hq] at hparts
  obtain ⟨hpq, hrs⟩ := List.cons.inj hparts
  refine ⟨hpq, ?_⟩
  rw [← joinWith_partsAt sep r, hrs, joinWith_partsAt]

/-- A text is cut at the last occurrence in one way only. -/
theorem cut_last {sep : Char} {p q r s : List Char} (hr : sep ∉ r) (hs : sep ∉ s) :
    p ++ sep :: r = q ++ sep :: s ↔ p = q ∧ r = s := by
  have hr' : sep ∉ r.reverse := mt List.mem_reverse.1 hr
  have hs' : sep ∉ s.reverse := mt List.mem_reverse.1 hs
  have hcut : r.reverse ++ sep :: p.reverse = s.reverse ++ sep :: q.reverse
      ↔ r.reverse = s.reverse ∧ p.reverse = q.reverse := cut_first hr' hs'
  rw [← List.reverse_inj, and_comm]
  simpa using hcut

/-- **The part behind the last occurrence is found**, whatever stands in front. -/
theorem afterLast_append {sep : Char} {q : List Char} (h : sep ∉ q) (p : List Char) :
    afterLast sep (p ++ sep :: q) = q := by
  have hq : ∀ c ∈ q.reverse, decide (c ≠ sep) = true := fun c hc =>
    decide_eq_true fun heq => h (heq ▸ List.mem_reverse.1 hc)
  rw [afterLast, List.reverse_append, List.reverse_cons, List.append_assoc,
    List.takeWhile_append_of_pos hq]
  simp

/-- **Parts are found again** in the text they are joined to, where none of
them holds the character. -/
theorem partsAt_joinWith {sep : Char} {ps : List (List Char)} (hne : ps ≠ [])
    (h : ∀ p ∈ ps, sep ∉ p) : partsAt sep (joinWith sep ps) = ps := by
  induction ps with
  | nil => exact absurd rfl hne
  | cons p ps ih =>
    have hp : sep ∉ p := h p List.mem_cons_self
    cases ps with
    | nil => exact partsAt_of_notMem hp
    | cons q qs =>
      rw [joinWith, partsAt_append hp,
        ih (List.cons_ne_nil q qs) fun r hr => h r (List.mem_cons_of_mem p hr)]

end Herald
