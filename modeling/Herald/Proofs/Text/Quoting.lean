import Herald.Text.Quoted
/-!
# Quoted text is read in one way only

What is written for a character says which one it is and where it ends, whatever
follows: that is `readChar?_escape`, for the short escapes, the escapes by code
point and the characters that stand for themselves. A quote is none of them, so it
ends the text, and what stands behind it is not mistaken for more of it
(`encode_append_inj`).
-/

namespace Herald

namespace Quoted

/-- The character of a short escape, by the letter behind the backslash. -/
def shortEscape? : Char → Option Char
  | '0' => some '\x00'
  | 't' => some '\t'
  | 'r' => some '\r'
  | 'n' => some '\n'
  | '\x22' => some '\x22'
  | '\x5c' => some '\x5c'
  | _ => none

/-- **The character at the head of quoted text**, and the text behind what is
written for it; none where the closing quote stands. -/
def readChar? : List Char → Option (Char × List Char)
  | '\x5c' :: 'u' :: '\x7b' :: cs =>
    some (Char.ofNat (Digits.read 16 (cs.takeWhile (· ≠ '\x7d'))),
      (cs.dropWhile (· ≠ '\x7d')).tail)
  | '\x5c' :: letter :: cs => (shortEscape? letter).map fun c => (c, cs)
  | '\x22' :: _ => none
  | c :: cs => some (c, cs)
  | [] => none

/-- **How a character is written**: with a short escape, by its code point, or as
itself. -/
theorem escape_cases (c : Char) :
    (∃ letter, letter ≠ 'u' ∧ shortEscape? letter = some c ∧ escape c = ['\x5c', letter])
    ∨ escape c = codePoint c
    ∨ (c ≠ '\x22' ∧ c ≠ '\x5c' ∧ escape c = [c]) := by
  fun_cases escape c with
  | case7 => exact .inr (.inl rfl)
  | case8 _ _ _ _ hquote hslash _ => exact .inr (.inr ⟨hquote, hslash, rfl⟩)
  | _ =>
    subst_vars
    exact .inl ⟨_, by decide, by decide, rfl⟩

/-- The digits of a code point end at the brace. -/
theorem ne_brace_of_mem_hexadecimal {n : Nat} {c : Char} (h : c ∈ Digits.hexadecimal n) :
    decide (c ≠ '\x7d') = true := by
  have hdigit : ∀ d < 16, decide (Digits.digit d ≠ '\x7d') = true := by decide
  obtain ⟨d, hd, rfl⟩ := Digits.exists_of_mem_write (by omega) h
  exact hdigit d hd

/-- An escape by code point is read. -/
theorem readChar?_codePoint (c : Char) (rest : List Char) :
    readChar? (codePoint c ++ rest) = some (c, rest) := by
  have hdigits : ∀ d ∈ Digits.hexadecimal c.toNat, decide (d ≠ '\x7d') = true :=
    fun _ => ne_brace_of_mem_hexadecimal
  have htext : codePoint c ++ rest
      = '\x5c' :: 'u' :: '\x7b' :: (Digits.hexadecimal c.toNat ++ '\x7d' :: rest) := by
    simp [codePoint]
  have hread : Digits.read 16 (Digits.hexadecimal c.toNat) = c.toNat :=
    Digits.read_write 16 (by omega) (by omega) c.toNat
  rw [htext, readChar?, List.takeWhile_append_of_pos hdigits, List.dropWhile_append_of_pos hdigits]
  simp [hread]

/-- **What is written for a character is read as it**, whatever follows. -/
theorem readChar?_escape (c : Char) (rest : List Char) :
    readChar? (escape c ++ rest) = some (c, rest) := by
  rcases escape_cases c with ⟨letter, hu, hshort, he⟩ | he | ⟨hquote, hslash, he⟩
  · rw [he]
    show readChar? ('\x5c' :: letter :: rest) = _
    rw [readChar?, hshort]
    · rfl
    · intro _ hletter
      exact absurd hletter hu
  · rw [he, readChar?_codePoint]
  · rw [he]
    show readChar? (c :: rest) = _
    rw [readChar?]
    all_goals
      intros
      contradiction

/-- Escaped characters end at the quote. -/
theorem flatMap_escape_inj {cs ds r s : List Char}
    (h : cs.flatMap escape ++ '\x22' :: r = ds.flatMap escape ++ '\x22' :: s) :
    cs = ds ∧ r = s := by
  -- on the characters of one text; those of the other are read beside them
  induction cs generalizing ds with
  | nil =>
    cases ds with
    | nil => exact ⟨rfl, (List.cons.inj h).2⟩
    | cons d ds =>
      have hread := congrArg readChar? h
      rw [List.flatMap_cons, List.append_assoc, readChar?_escape] at hread
      cases hread
  | cons c cs ih =>
    have hread := congrArg readChar? h
    rw [List.flatMap_cons, List.append_assoc, readChar?_escape] at hread
    cases ds with
    | nil => cases hread
    | cons d ds =>
      rw [List.flatMap_cons, List.append_assoc, readChar?_escape, Option.some.injEq,
        Prod.mk.injEq] at hread
      obtain ⟨rfl, hrest⟩ := hread
      obtain ⟨rfl, hr⟩ := ih hrest
      exact ⟨rfl, hr⟩

/-- **Quoted text ends where its quote does**, and is read in one way only. -/
theorem encode_append_inj {cs ds r s : List Char} :
    encode cs ++ r = encode ds ++ s ↔ cs = ds ∧ r = s := by
  refine ⟨fun h => flatMap_escape_inj ?_, fun ⟨hcs, hr⟩ => hcs ▸ hr ▸ rfl⟩
  simpa [encode] using h

end Quoted

end Herald
