import Herald.Json.Value
import Mathlib.Algebra.Order.Ring.Int
/-!
# The tokens of written values

The compact text of a value is cut into the tokens one expects
(`Value.IsIntegral.lexes`). A string literal stands for the characters it was
written for, whichever of them were escaped, and an integer for itself, as
long as it fits a 64-bit word of its sign. A number ends where something
follows that cannot belong to it, which is what `EndsNumber` asks of the text
behind a value; commas and brackets do.
-/

namespace Herald.Json

/-! ## String literals -/

namespace Literal

/-- **How a character is written**: with a short escape, by its code, or as
itself. -/
theorem escape_cases (c : Char) :
    (∃ d, d ≠ 'u' ∧ shortEscape d = some c ∧ escape c = ['\x5c', d])
    ∨ (c.toNat < 0x20 ∧ escape c = controlEscape c)
    ∨ (c ≠ '\x22' ∧ c ≠ '\x5c' ∧ ¬ c.toNat < 0x20 ∧ escape c = [c]) := by
  fun_cases escape c with
  | case8 _ _ _ _ _ _ _ hcontrol => exact .inr (.inl ⟨hcontrol, rfl⟩)
  | case9 hquote hslash _ _ _ _ _ hcontrol => exact .inr (.inr ⟨hquote, hslash, hcontrol, rfl⟩)
  | _ =>
    subst_vars
    exact .inl ⟨_, by decide, by decide, rfl⟩

/-- A short escape is one piece. -/
theorem scan_shortEscape {c d : Char} (hd : d ≠ 'u') (h : shortEscape d = some c)
    (cs : List Char) : scan ('\x5c' :: d :: cs) = (.char c :: (scan cs).1, (scan cs).2) := by
  rw [scan]
  · rw [h]
  all_goals
    intros
    contradiction

/-- The digits of a control character give its code. -/
theorem unitOf_controlEscape {c : Char} (hc : c.toNat < 0x20) :
    unitOf '0' '0' (Digits.digit (c.toNat / 16)) (Digits.digit (c.toNat % 16)) = some c.toNat := by
  have h0 : Digits.valueOf '0' = some 0 := by decide
  simp only [unitOf, h0, Digits.valueOf_digit _ (show c.toNat / 16 < 16 by omega),
    Digits.valueOf_digit _ (show c.toNat % 16 < 16 by omega), Option.bind_eq_bind,
    Option.bind_some, Option.pure_def, Option.some.injEq]
  omega

/-- The escape of a control character is the unit of its code. -/
theorem scan_controlEscape {c : Char} (hc : c.toNat < 0x20) (cs : List Char) :
    scan (controlEscape c ++ cs) = (.unit c.toNat :: (scan cs).1, (scan cs).2) := by
  simp only [controlEscape, List.cons_append, List.nil_append, scan]
  rw [unitOf_controlEscape hc]

/-- The unit of a control character is joined to that character, since it is no part of a pair. -/
theorem join_control {c : Char} (hc : c.toNat < 0x20) (ps : List Piece) :
    join none (.unit c.toNat :: ps) = (join none ps).map (c :: ·) := by
  have hlow : isLow c.toNat = false := by
    simp only [isLow, decide_eq_false_iff_not]
    omega
  have hhigh : isHigh c.toNat = false := by
    simp only [isHigh, decide_eq_false_iff_not]
    omega
  rw [join.eq_def]
  simp only [hlow, hhigh, Char.ofNat_toNat, Bool.false_eq_true, if_false]

/-- Any other character is itself. -/
theorem scan_self {c : Char} (hquote : c ≠ '\x22') (hslash : c ≠ '\x5c') (hc : ¬ c.toNat < 0x20)
    (cs : List Char) : scan (c :: cs) = (.char c :: (scan cs).1, (scan cs).2) := by
  rw [scan, if_neg hc]
  all_goals
    intros
    contradiction

/-- **An escaped character is one piece**, and joined it is the character
again. -/
theorem scan_escape (c : Char) : ∃ p,
    (∀ cs, scan (escape c ++ cs) = (p :: (scan cs).1, (scan cs).2))
    ∧ ∀ ps, join none (p :: ps) = (join none ps).map (c :: ·) := by
  rcases escape_cases c with ⟨d, hd, hshort, he⟩ | ⟨hc, he⟩ | ⟨hquote, hslash, hc, he⟩
  · exact ⟨.char c, fun cs => by rw [he]; exact scan_shortEscape hd hshort cs, fun _ => rfl⟩
  · exact ⟨.unit c.toNat, fun cs => by rw [he]; exact scan_controlEscape hc cs, join_control hc⟩
  · exact ⟨.char c, fun cs => by rw [he]; exact scan_self hquote hslash hc cs, fun _ => rfl⟩

/-- Characters that are written are read back up to the closing quote. -/
theorem scan_flatMap_escape (cs rest : List Char) : ∃ ps,
    scan (cs.flatMap escape ++ '\x22' :: rest) = (ps, .ok rest) ∧ join none ps = .ok cs := by
  induction cs with
  | nil => exact ⟨[], by simp [scan], rfl⟩
  | cons c cs ih =>
    obtain ⟨ps, hscan, hjoin⟩ := ih
    obtain ⟨p, hp, hc⟩ := scan_escape c
    refine ⟨p :: ps, ?_, ?_⟩
    · rw [List.flatMap_cons, List.append_assoc, hp, hscan]
    · rw [hc, hjoin]
      rfl

end Literal

/-! ## One token after the other -/

/-- A character that is no blank starts a token. -/
theorem lex_cons {c : Char} {cs : List Char} (hc : Token.isBlank c = false) :
    lex (c :: cs) = (Token.starting c cs).1 :: lex (Token.starting c cs).2 := by
  rw [lex, if_neg (by rw [hc]; decide)]

/-- **A written string is its token.** -/
theorem lex_quote (cs rest : List Char) :
    lex (Literal.quote cs ++ rest) = .string (.ok cs) :: lex rest := by
  obtain ⟨ps, hscan, hjoin⟩ := Literal.scan_flatMap_escape cs rest
  have hliteral : Token.literal (cs.flatMap Literal.escape ++ '\x22' :: rest)
      = (.string (.ok cs), rest) := by
    rw [Token.literal, hscan]
    show (Token.string (Literal.join none ps), rest) = _
    rw [hjoin]
  have htext : Literal.quote cs ++ rest
      = '\x22' :: (cs.flatMap Literal.escape ++ '\x22' :: rest) := by
    simp [Literal.quote]
  rw [htext, lex_cons (by decide)]
  show (Token.literal _).1 :: lex (Token.literal _).2 = _
  rw [hliteral]

/-! ## Integers -/

/-- The number that digits make behind those of a number. -/
def withDigits (n : Nat) (cs : List Char) : Nat :=
  cs.foldl (fun n c => n * 10 + (Digits.valueOf c).getD 0) n

/-- Digits behind a number never make it smaller. -/
theorem le_withDigits (n : Nat) (cs : List Char) : n ≤ withDigits n cs := by
  induction cs generalizing n with
  | nil => exact Nat.le_refl n
  | cons c cs ih =>
    have hnext : n ≤ n * 10 + (Digits.valueOf c).getD 0 := by omega
    exact Nat.le_trans hnext (ih _)

/-- Decimal digits make their number. -/
theorem withDigits_decimal (n : Nat) : withDigits 0 (Digits.decimal n) = n :=
  Digits.read_write 10 (by omega) (by omega) n

/-- Digits of a number that fits a word are read without overflow. -/
theorem Significand.whole_of_le {word : Nat} {cs : List Char}
    (h : withDigits word cs ≤ maxWord) :
    Significand.whole word cs = (⟨withDigits word cs, 0⟩, false) := by
  induction cs generalizing word with
  | nil => rfl
  | cons c cs ih =>
    -- every number on the way is at most the last one
    have hnext := Nat.le_trans (le_withDigits _ cs) h
    rw [whole]
    simp only [if_neg (Nat.not_lt.2 hnext)]
    exact ih h

/-- The decimal digits of a number that fits a word give the number. -/
theorem Significand.whole_decimal {n : Nat} (hn : n ≤ maxWord) :
    Significand.whole 0 (Digits.decimal n) = (⟨n, 0⟩, false) := by
  have hword : withDigits 0 (Digits.decimal n) ≤ maxWord := by
    rw [withDigits_decimal]
    exact hn
  rw [whole_of_le hword, withDigits_decimal]

/-- Without a sign they stand for it. -/
theorem toNumber_decimal {n : Nat} (hn : n ≤ maxWord) :
    NumberParts.toNumber ⟨false, Digits.decimal n, none, none⟩ = some (.integer n) := by
  rw [NumberParts.toNumber, Significand.whole_decimal hn]
  rfl

/-- With a sign they stand for its negative, if that fits a signed word. -/
theorem toNumber_neg_decimal {n : Nat} (hpos : 0 < n) (hn : n ≤ 2 ^ 63) :
    NumberParts.toNumber ⟨true, Digits.decimal n, none, none⟩ = some (.integer (-n)) := by
  have hword : n ≤ maxWord := Nat.le_trans hn (by decide)
  have hsmall : ¬ (n = 0 ∨ 0x8000_0000_0000_0000 < n) := by omega
  rw [NumberParts.toNumber, Significand.whole_decimal hword]
  simp [hsmall]

/-- The text behind a number does not go on with it: there is no further
digit, no fraction and no exponent. -/
def EndsNumber : List Char → Prop
  | [] => True
  | c :: _ => Digits.isDecimal c = false ∧ c ≠ '.' ∧ c ≠ 'e' ∧ c ≠ 'E'

/-- Commas and closing brackets end one. -/
theorem endsNumber_cons {c : Char} (hc : c ∈ [',', ']', '\x7d']) (cs : List Char) :
    EndsNumber (c :: cs) := by
  simp only [List.mem_cons, List.not_mem_nil, or_false] at hc
  rcases hc with rfl | rfl | rfl
  all_goals exact ⟨by decide, by decide, by decide, by decide⟩

/-- All digits are taken. -/
theorem takeWhile_decimal {n : Nat} {rest : List Char} (h : EndsNumber rest) :
    (Digits.decimal n ++ rest).takeWhile Digits.isDecimal = Digits.decimal n := by
  rw [List.takeWhile_append_of_pos fun _ => Digits.isDecimal_of_mem_decimal]
  rcases rest with _ | ⟨c, rest⟩
  · simp
  · simp [h.1]

/-- Nothing but the digits of a number is taken. -/
theorem dropWhile_decimal {n : Nat} {rest : List Char} (h : EndsNumber rest) :
    (Digits.decimal n ++ rest).dropWhile Digits.isDecimal = rest := by
  rw [List.dropWhile_append_of_pos fun _ => Digits.isDecimal_of_mem_decimal]
  rcases rest with _ | ⟨c, rest⟩
  · rfl
  · simp [h.1]

/-- Behind the digits, the number is over. -/
theorem afterDigits_of_ends {parts : NumberParts} {rest : List Char} (h : EndsNumber rest) :
    Token.afterDigits parts rest
      = (.number (parts.toNumber.elim (.error .malformed) .ok), rest) := by
  unfold Token.afterDigits
  split
  · exact absurd rfl h.2.2.1
  · exact absurd rfl h.2.2.2
  · rfl

/-- **A number behind its sign**: its digits and nothing else. -/
theorem numeral_decimal (neg : Bool) {n : Nat} {rest : List Char} (h : EndsNumber rest) :
    Token.numeral neg (Digits.decimal n ++ rest)
      = (.number ((NumberParts.toNumber ⟨neg, Digits.decimal n, none, none⟩).elim
          (.error .malformed) .ok), rest) := by
  rw [Token.numeral, takeWhile_decimal h, dropWhile_decimal h]
  rcases hd : Digits.decimal n with _ | ⟨d, ds⟩
  · exact absurd hd (Digits.write_ne_nil 10 (by omega) n)
  · have hzero : ¬ (d = '0' ∧ ds ≠ []) := by
      rintro ⟨rfl, hds⟩
      exact hds (Digits.eq_nil_of_decimal hd)
    simp only [if_neg hzero]
    split
    · exact absurd rfl h.2.1
    · exact afterDigits_of_ends h

/-- A digit starts a number. -/
theorem starting_of_isDecimal {c : Char} (hc : Digits.isDecimal c = true) (cs : List Char) :
    Token.starting c cs = Token.numeral false (c :: cs) := by
  unfold Token.starting
  split
  case h_12 => exact if_pos hc
  all_goals exact absurd hc (by decide)

/-- A digit is no blank. -/
theorem isBlank_of_isDecimal {c : Char} (hc : Digits.isDecimal c = true) :
    Token.isBlank c = false := by
  simp only [Token.isBlank, Bool.or_eq_false_iff, beq_eq_false_iff_ne]
  refine ⟨⟨⟨?_, ?_⟩, ?_⟩, ?_⟩
  all_goals
    rintro rfl
    exact absurd hc (by decide)

/-- **A written integer is its token**, if it fits a word. -/
theorem lex_integer {n : Int} (hlo : -(2 ^ 63) ≤ n) (hhi : n < 2 ^ 64) {rest : List Char}
    (h : EndsNumber rest) : lex (Digits.signedDecimal n ++ rest)
      = .number (.ok (.integer n)) :: lex rest := by
  rw [Digits.signedDecimal]
  split
  · next hneg =>
    have hnumber := toNumber_neg_decimal (n := n.natAbs) (by omega) (by omega)
    have hn : -(n.natAbs : Int) = n := by omega
    rw [List.cons_append, lex_cons (by decide)]
    show (Token.numeral true _).1 :: lex (Token.numeral true _).2 = _
    rw [numeral_decimal true h, hnumber, hn]
    rfl
  · next hnonneg =>
    have hword : n.natAbs ≤ maxWord := by
      rw [maxWord]
      omega
    have hnumber := toNumber_decimal hword
    have hn : (n.natAbs : Int) = n := by omega
    have hnumeral := numeral_decimal false (n := n.natAbs) h
    rcases hd : Digits.decimal n.natAbs with _ | ⟨c, cs⟩
    · exact absurd hd (Digits.write_ne_nil 10 (by omega) _)
    · have hc : Digits.isDecimal c = true :=
        Digits.isDecimal_of_mem_decimal (n := n.natAbs) (hd ▸ List.mem_cons_self)
      rw [hd] at hnumeral hnumber
      rw [List.cons_append, lex_cons (isBlank_of_isDecimal hc), starting_of_isDecimal hc]
      rw [← List.cons_append, hnumeral, hnumber, hn]
      rfl

/-! ## Values -/

namespace Value

mutual

/-- The tokens of a value. -/
def tokens : Value → List Token
  | .null => [.null]
  | .bool b => [.bool b]
  | .number n => [.number (.ok n)]
  | .string s => [.string (.ok s.toList)]
  | .array vs => .openArray :: elementsTokens vs ++ [.closeArray]
  | .object ms => .openObject :: membersTokens ms ++ [.closeObject]

/-- Elements with commas between them. -/
def elementsTokens : List Value → List Token
  | [] => []
  | [v] => v.tokens
  | v :: w :: rest => v.tokens ++ .comma :: elementsTokens (w :: rest)

/-- Members with commas between them. -/
def membersTokens : List (String × Value) → List Token
  | [] => []
  | [(k, v)] => .string (.ok k.toList) :: .colon :: v.tokens
  | (k, v) :: m :: rest =>
    .string (.ok k.toList) :: .colon :: v.tokens ++ .comma :: membersTokens (m :: rest)

end

/-- **A value whose numbers are all integers** that fit a 64-bit word of
their sign. -/
inductive IsIntegral : Value → Prop
  | null : IsIntegral .null
  | bool (b : Bool) : IsIntegral (.bool b)
  | integer (n : Int) (hlo : -(2 ^ 63) ≤ n) (hhi : n < 2 ^ 64) :
      IsIntegral (.number (.integer n))
  | string (s : String) : IsIntegral (.string s)
  | array (vs : List Value) (elements : ∀ v ∈ vs, IsIntegral v) : IsIntegral (.array vs)
  | object (ms : List (String × Value)) (members : ∀ m ∈ ms, IsIntegral m.2) :
      IsIntegral (.object ms)

/-- The text of a value is cut into its tokens, whatever follows. -/
def Lexes (v : Value) : Prop :=
  ∀ rest, EndsNumber rest → lex (v.text ++ rest) = v.tokens ++ lex rest

/-- Where nothing follows the text of a value, its tokens are all there are. -/
theorem Lexes.lex_text {v : Value} (h : v.Lexes) : lex v.text = v.tokens := by
  have hlex := h [] trivial
  have hend : lex [] = [] := by rw [lex]
  rw [List.append_nil, hend, List.append_nil] at hlex
  exact hlex

/-- Elements are cut into theirs if each of them is. -/
theorem lex_elementsText {vs : List Value} (h : ∀ v ∈ vs, v.Lexes) {rest : List Char}
    (hrest : EndsNumber rest) : lex (elementsText vs ++ rest) = elementsTokens vs ++ lex rest := by
  induction vs with
  | nil => rfl
  | cons v vs ih =>
    have hv := h v List.mem_cons_self
    have hvs := ih fun w hw => h w (List.mem_cons_of_mem v hw)
    rcases vs with _ | ⟨w, vs⟩
    · exact hv rest hrest
    · rw [elementsText, elementsTokens, List.append_assoc, List.cons_append,
        hv _ (endsNumber_cons (by decide) _), lex_cons (by decide), List.append_assoc,
        List.cons_append, ← hvs]
      rfl

/-- Members are cut into theirs if the value of each of them is. -/
theorem lex_membersText {ms : List (String × Value)} (h : ∀ m ∈ ms, m.2.Lexes)
    {rest : List Char} (hrest : EndsNumber rest) :
    lex (membersText ms ++ rest) = membersTokens ms ++ lex rest := by
  induction ms with
  | nil => rfl
  | cons m ms ih =>
    obtain ⟨k, v⟩ := m
    have hv := h (k, v) List.mem_cons_self
    have hms := ih fun w hw => h w (List.mem_cons_of_mem _ hw)
    rcases ms with _ | ⟨m, ms⟩
    · rw [membersText, membersTokens, List.append_assoc, lex_quote, List.cons_append,
        lex_cons (by decide)]
      show _ :: .colon :: lex (v.text ++ rest) = _
      rw [hv rest hrest]
      rfl
    · rw [membersText, membersTokens]
      simp only [List.append_assoc, List.cons_append]
      rw [lex_quote, lex_cons (by decide)]
      show _ :: .colon :: lex (v.text ++ ',' :: _) = _
      rw [hv _ (endsNumber_cons (by decide) _), lex_cons (by decide), ← hms]
      rfl

/-- **The text of a value is cut into its tokens**, if its numbers are
integers. -/
theorem IsIntegral.lexes {v : Value} (h : v.IsIntegral) : v.Lexes := by
  induction h with
  | null => exact fun rest _ => lex_cons (by decide)
  | bool b =>
    intro rest _
    cases b with
    | true => exact lex_cons (by decide)
    | false => exact lex_cons (by decide)
  | integer n hlo hhi => exact fun rest hrest => lex_integer hlo hhi hrest
  | string s => exact fun rest _ => lex_quote s.toList rest
  | array vs _ ih =>
    intro rest _
    have hclose := lex_elementsText ih (endsNumber_cons (c := ']') (by decide) rest)
    simp only [text, tokens, List.cons_append, List.append_assoc, List.nil_append]
    rw [lex_cons (by decide)]
    show .openArray :: lex (elementsText vs ++ ']' :: rest) = _
    rw [hclose, lex_cons (by decide)]
    rfl
  | object ms _ ih =>
    intro rest _
    have hclose := lex_membersText ih (endsNumber_cons (c := '\x7d') (by decide) rest)
    simp only [text, tokens, List.cons_append, List.append_assoc, List.nil_append]
    rw [lex_cons (by decide)]
    show .openObject :: lex (membersText ms ++ '\x7d' :: rest) = _
    rw [hclose, lex_cons (by decide)]
    rfl

end Value

end Herald.Json
