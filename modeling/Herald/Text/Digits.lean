/-!
# Digits

Whole numbers as digits in a base from two to sixteen, most significant
first and without leading zeros, and their reading back.
-/

namespace Herald

namespace Digits

/-- The digit for a value below sixteen, in lower case. -/
def digit (n : Nat) : Char := if n < 10 then Char.ofNat (48 + n) else Char.ofNat (87 + n)

/-- The digit for a value below sixteen, in upper case. -/
def upperDigit (n : Nat) : Char := if n < 10 then Char.ofNat (48 + n) else Char.ofNat (55 + n)

/-- The value of a hexadecimal digit of either case. -/
def valueOf (c : Char) : Option Nat :=
  if '0' ≤ c ∧ c ≤ '9' then some (c.toNat - 48)
  else if 'a' ≤ c ∧ c ≤ 'f' then some (c.toNat - 87)
  else if 'A' ≤ c ∧ c ≤ 'F' then some (c.toNat - 55)
  else none

/-- Whether a character is a decimal digit. -/
def isDecimal (c : Char) : Bool := decide ('0' ≤ c ∧ c ≤ '9')

/-- The digits of a number in a base of at least two. -/
def write (base : Nat) (hb : 2 ≤ base) (n : Nat) : List Char :=
  if n < base then [digit n] else write base hb (n / base) ++ [digit (n % base)]
termination_by n
decreasing_by exact Nat.div_lt_self (by omega) (by omega)

/-- The decimal digits of a number. -/
def decimal (n : Nat) : List Char := write 10 (by omega) n

/-- The hexadecimal digits of a number. -/
def hexadecimal (n : Nat) : List Char := write 16 (by omega) n

/-- A number with its sign, if it is negative. -/
def signedDecimal (n : Int) : List Char :=
  if n < 0 then '-' :: decimal n.natAbs else decimal n.natAbs

/-- Decimal digits, filled up with zeros in front to a width. -/
def padded (width n : Nat) : List Char :=
  List.replicate (width - (decimal n).length) '0' ++ decimal n

/-- The number some digits stand for; other characters count as zero. -/
def read (base : Nat) (cs : List Char) : Nat :=
  cs.foldl (fun n c => n * base + (valueOf c).getD 0) 0

/-- The number some characters write in decimal, if they are decimal digits. -/
def readDecimal? (cs : List Char) : Option Nat :=
  if cs ≠ [] ∧ cs.all isDecimal then some (read 10 cs) else none

/-- The whole number some characters write, with a sign where it is
negative. -/
def readSigned? : List Char → Option Int
  | '-' :: cs => (readDecimal? cs).map fun n : Nat => -(n : Int)
  | cs => (readDecimal? cs).map Int.ofNat

/-- A digit has its value. -/
theorem valueOf_digit : ∀ n < 16, valueOf (digit n) = some n := by decide

/-- A digit in upper case has its value. -/
theorem valueOf_upperDigit : ∀ n < 16, valueOf (upperDigit n) = some n := by decide

/-- A digit below ten is a decimal digit. -/
theorem isDecimal_digit : ∀ n < 10, isDecimal (digit n) = true := by decide

/-- One digit more at the end. -/
theorem read_concat (base : Nat) (cs : List Char) (c : Char) :
    read base (cs ++ [c]) = read base cs * base + (valueOf c).getD 0 := by
  simp [read]

/-- **What is written reads back.** -/
theorem read_write (base : Nat) (hb : 2 ≤ base) (h16 : base ≤ 16) (n : Nat) :
    read base (write base hb n) = n := by
  fun_induction write base hb n with
  | case1 n h => simp [read, valueOf_digit n (by omega)]
  | case2 n h ih =>
    have hm : n % base < 16 := by
      have := Nat.mod_lt n (show 0 < base by omega)
      omega
    rw [read_concat, ih, valueOf_digit _ hm, Option.getD_some]
    exact Nat.div_add_mod' n base

/-- A written number has a digit. -/
theorem write_ne_nil (base : Nat) (hb : 2 ≤ base) (n : Nat) : write base hb n ≠ [] := by
  rw [write]
  split <;> simp

/-- A written number has no leading zeros. -/
theorem ne_zero_of_write {base n : Nat} (hb : 2 ≤ base) (h16 : base ≤ 16) (hn : 0 < n) {c : Char}
    {cs : List Char} (h : write base hb n = c :: cs) : c ≠ '0' := by
  have hdigit : ∀ d < 16, 0 < d → digit d ≠ '0' := by decide
  fun_induction write base hb n generalizing cs with
  | case1 n hlt =>
    obtain ⟨rfl, -⟩ := List.cons.inj h
    exact hdigit n (by omega) hn
  | case2 n hlt ih =>
    rcases hw : write base hb (n / base) with _ | ⟨d, ds⟩
    · exact absurd hw (write_ne_nil base hb _)
    · rw [hw] at h
      obtain ⟨rfl, -⟩ := List.cons.inj h
      exact ih (Nat.div_pos (by omega) (by omega)) hw

/-- The zero is the only number whose text starts with a zero. -/
theorem eq_nil_of_decimal {n : Nat} {ds : List Char} (h : decimal n = '0' :: ds) : ds = [] := by
  rcases Nat.eq_zero_or_pos n with rfl | hn
  · rw [decimal, write] at h
    exact (List.cons.inj h).2.symm
  · exact absurd rfl (ne_zero_of_write (by omega) (by omega) hn h)

/-- A written number holds digits of its base only. -/
theorem exists_of_mem_write {base n : Nat} (hb : 2 ≤ base) {c : Char}
    (h : c ∈ write base hb n) : ∃ d < base, c = digit d := by
  fun_induction write base hb n with
  | case1 n hn => exact ⟨n, hn, List.mem_singleton.1 h⟩
  | case2 n hn ih =>
    rcases List.mem_append.1 h with h | h
    · exact ih h
    · exact ⟨n % base, Nat.mod_lt n (by omega), List.mem_singleton.1 h⟩

/-- Decimal text holds decimal digits only. -/
theorem isDecimal_of_mem_decimal {c : Char} {n : Nat} (h : c ∈ decimal n) :
    isDecimal c = true := by
  simp only [decimal] at h
  fun_induction write 10 (by omega) n with
  | case1 n hn =>
    simp only [List.mem_singleton] at h
    exact h ▸ isDecimal_digit n hn
  | case2 n hn ih =>
    simp only [List.mem_append, List.mem_singleton] at h
    rcases h with h | h
    · exact ih h
    · exact h ▸ isDecimal_digit _ (Nat.mod_lt _ (by omega))

/-- **A number reads back from its decimal digits.** -/
theorem readDecimal?_decimal (n : Nat) : readDecimal? (decimal n) = some n := by
  have hdigits : decimal n ≠ [] ∧ (decimal n).all isDecimal = true :=
    ⟨write_ne_nil 10 (by omega) n, List.all_eq_true.2 fun _ => isDecimal_of_mem_decimal⟩
  rw [readDecimal?, if_pos hdigits]
  exact congrArg some (read_write 10 (by omega) (by omega) n)

/-- Filling up adds decimal digits only. -/
theorem isDecimal_of_mem_padded {c : Char} {width n : Nat} (h : c ∈ padded width n) :
    isDecimal c = true := by
  rcases List.mem_append.1 h with h | h
  · rw [List.eq_of_mem_replicate h]
    rfl
  · exact isDecimal_of_mem_decimal h

theorem padded_ne_nil (width n : Nat) : padded width n ≠ [] := fun h =>
  write_ne_nil 10 (by omega) n (List.append_eq_nil_iff.1 h).2

/-- Zeros in front do not count. -/
theorem read_replicate (base k : Nat) (cs : List Char) :
    read base (List.replicate k '0' ++ cs) = read base cs := by
  induction k with
  | zero => rfl
  | succ k ih =>
    rw [List.replicate_succ, List.cons_append, ← ih]
    simp [read, show valueOf '0' = some 0 from rfl]

/-- Filling up leaves the number that is read. -/
theorem read_padded (width n : Nat) : read 10 (padded width n) = n := by
  rw [padded, read_replicate]
  exact read_write 10 (by omega) (by omega) n

/-- **A number reads back from its digits** when it was filled up, too. -/
theorem readDecimal?_padded (width n : Nat) : readDecimal? (padded width n) = some n := by
  have hdigits : padded width n ≠ [] ∧ (padded width n).all isDecimal = true :=
    ⟨padded_ne_nil width n, List.all_eq_true.2 fun _ => isDecimal_of_mem_padded⟩
  rw [readDecimal?, if_pos hdigits, read_padded]

/-- **A whole number reads back from its text**, negative or not. -/
theorem readSigned?_signedDecimal (n : Int) : readSigned? (signedDecimal n) = some n := by
  have hread := readDecimal?_decimal n.natAbs
  rw [signedDecimal]
  split
  · next h =>
    simp only [readSigned?, hread, Option.map_some, Option.some.injEq]
    omega
  · next h =>
    rcases hd : decimal n.natAbs with _ | ⟨c, cs⟩
    · exact absurd hd (write_ne_nil 10 (by omega) _)
    · -- the text starts with a digit, so it is not read as a negative number
      have hc : isDecimal c = true :=
        isDecimal_of_mem_decimal (n := n.natAbs) (hd ▸ List.mem_cons_self)
      have hne : c ≠ '-' := by
        rintro rfl
        exact absurd hc (by decide)
      rw [hd] at hread
      rw [readSigned?, hread]
      · simp only [Option.map_some, Option.some.injEq, Int.ofNat_eq_natCast]
        omega
      · rintro _ ⟨⟩
        exact hne rfl

end Digits

end Herald
