import Herald.Json.Literal
import Herald.Json.Number
/-!
# Tokens of JSON text

Lexing never fails. A literal that breaks off becomes a last token that
carries its fault, so a reader of the tokens meets the problems of a text in
the order in which they stand, and text behind the first one does not matter.
A number or string can also be complete and still have no value; such a token
faults when its value is asked for, and not when it is skipped.
-/

namespace Herald.Json

/-- A token. -/
inductive Token where
  | openArray
  | closeArray
  | openObject
  | closeObject
  | comma
  | colon
  | null
  | bool (b : Bool)
  /-- A complete number. -/
  | number (value : Except Fault Number)
  /-- A complete string literal. -/
  | string (value : Except Fault (List Char))
  /-- A string literal that breaks off, with its fault when it is read and
  when it is skipped. -/
  | brokenString (read skip : Fault)
  /-- Another value that breaks off, with its two faults. -/
  | broken (read skip : Fault)

namespace Token

/-- The rest of a word whose first letter has been seen. -/
def word (value : Token) : List Char → List Char → Token × List Char
  | [], rest => (value, rest)
  | _ :: _, [] => (broken .endsEarly .endsEarly, [])
  | e :: es, c :: rest =>
    if c = e then word value es rest else (broken .malformed .malformed, [])

/-- A place in a number where a digit has to stand: read, a text that ends
there ends early; skipped, it is malformed. -/
def digitMissing : List Char → Token
  | [] => broken .endsEarly .malformed
  | _ :: _ => broken .malformed .malformed

/-- The power behind the `e` of a number. -/
def power (parts : NumberParts) (cs : List Char) : Token × List Char :=
  let (negative, cs') : Bool × List Char :=
    match cs with
    | '+' :: r => (false, r)
    | '-' :: r => (true, r)
    | r => (false, r)
  match cs'.takeWhile Digits.isDecimal with
  | [] => (digitMissing cs', [])
  | ds =>
    let p : NumberParts := { parts with power := some ⟨negative, ds⟩ }
    (number (p.toNumber.elim (.error .malformed) .ok), cs'.dropWhile Digits.isDecimal)

/-- What may follow the digits of a number: a power, or nothing of it. -/
def afterDigits (parts : NumberParts) : List Char → Token × List Char
  | 'e' :: r => power parts r
  | 'E' :: r => power parts r
  | r => (number (parts.toNumber.elim (.error .malformed) .ok), r)

/-- A number from behind its sign. A leading zero stands alone. -/
def numeral (isNegative : Bool) (cs : List Char) : Token × List Char :=
  match cs.takeWhile Digits.isDecimal with
  | [] => (digitMissing cs, [])
  | d :: ds =>
    if d = '0' ∧ ds ≠ [] then (broken .malformed .malformed, [])
    else
      let parts : NumberParts := ⟨isNegative, d :: ds, none, none⟩
      match cs.dropWhile Digits.isDecimal with
      | '.' :: r =>
        match r.takeWhile Digits.isDecimal with
        | [] => (digitMissing r, [])
        | fs => afterDigits { parts with fraction := some fs } (r.dropWhile Digits.isDecimal)
      | r => afterDigits parts r

/-- A string literal from behind its opening quote. -/
def literal (cs : List Char) : Token × List Char :=
  match Literal.scan cs with
  | (ps, .ok rest) => (string (Literal.join none ps), rest)
  | (ps, .error f) =>
    (brokenString (match Literal.join (some f) ps with
      | .ok _ => f
      | .error f' => f') f, [])

/-- The token that starts with a character, and the text behind it. -/
def starting (c : Char) (cs : List Char) : Token × List Char :=
  match c with
  | '[' => (openArray, cs)
  | ']' => (closeArray, cs)
  | '\x7b' => (openObject, cs)
  | '\x7d' => (closeObject, cs)
  | ',' => (comma, cs)
  | ':' => (colon, cs)
  | '\x22' => literal cs
  | 'n' => word null ['u', 'l', 'l'] cs
  | 't' => word (bool true) ['r', 'u', 'e'] cs
  | 'f' => word (bool false) ['a', 'l', 's', 'e'] cs
  | '-' => numeral true cs
  | _ => if Digits.isDecimal c then numeral false (c :: cs) else (broken .malformed .malformed, [])

/-- Blanks between tokens. -/
def isBlank (c : Char) : Bool := c == ' ' || c == '\n' || c == '\t' || c == '\r'

end Token

/-! ## Every token takes a character

The text behind a token is never longer than the text behind the token's
first character. -/

/-- A scanned literal leaves no more than it was given. -/
theorem Literal.length_of_scan (cs : List Char) :
    ∀ rest, (Literal.scan cs).2 = .ok rest → rest.length ≤ cs.length := by
  intro rest h
  fun_induction Literal.scan cs generalizing rest <;> simp_all <;> grind

namespace Token

/-- A word takes what it matches, and a broken one all. -/
theorem length_word (value : Token) (es cs : List Char) :
    (word value es cs).2.length ≤ cs.length := by
  induction es generalizing cs with
  | nil => exact Nat.le_refl _
  | cons e es ih =>
    cases cs with
    | nil => exact Nat.le_refl _
    | cons c rest =>
      simp only [word]
      split
      · exact Nat.le_succ_of_le (ih rest)
      · exact Nat.zero_le _

/-- Dropping leaves no more than there was. -/
theorem length_dropWhile (p : Char → Bool) (cs : List Char) :
    (cs.dropWhile p).length ≤ cs.length := (List.dropWhile_sublist p).length_le

/-- A power leaves no more than it was given. -/
theorem length_power (parts : NumberParts) (cs : List Char) :
    (power parts cs).2.length ≤ cs.length := by
  simp only [power]
  split <;> split <;> simp <;> grind [length_dropWhile]

/-- What may follow the digits of a number leaves no more than it was given. -/
theorem length_afterDigits (parts : NumberParts) (cs : List Char) :
    (afterDigits parts cs).2.length ≤ cs.length := by
  simp only [afterDigits]
  split <;> grind [length_power]

/-- A number takes all digits it starts with. -/
theorem length_numeral (neg : Bool) (cs : List Char) :
    (numeral neg cs).2.length ≤ (cs.dropWhile Digits.isDecimal).length := by
  simp only [numeral]
  split
  · simp
  · split
    · simp
    · split
      · next r hr =>
        rw [hr]
        split
        · simp
        · have := length_afterDigits
          have := length_dropWhile Digits.isDecimal r
          simp only [List.length_cons]
          grind
      · exact length_afterDigits _ _

/-- A string literal leaves no more than it was given. -/
theorem length_literal (cs : List Char) : (literal cs).2.length ≤ cs.length := by
  simp only [literal]
  split
  · next ps rest h => exact Literal.length_of_scan cs rest (by rw [h])
  · simp

/-- **A token takes at least its first character.** -/
theorem length_starting (c : Char) (cs : List Char) : (starting c cs).2.length ≤ cs.length := by
  simp only [starting]
  split <;> try exact Nat.le_refl _
  · exact length_literal cs
  · exact length_word _ _ _
  · exact length_word _ _ _
  · exact length_word _ _ _
  · exact Nat.le_trans (length_numeral _ _) (length_dropWhile _ _)
  · split
    · next h =>
      refine Nat.le_trans (length_numeral _ _) ?_
      rw [List.dropWhile_cons_of_pos h]
      exact length_dropWhile _ _
    · simp

end Token

/-- **The tokens of a text.** -/
def lex : List Char → List Token
  | [] => []
  | c :: cs =>
    if Token.isBlank c then lex cs
    else (Token.starting c cs).1 :: lex (Token.starting c cs).2
termination_by cs => cs.length
decreasing_by
  · simp
  · have := Token.length_starting c cs
    simp only [List.length_cons]
    omega

end Herald.Json
