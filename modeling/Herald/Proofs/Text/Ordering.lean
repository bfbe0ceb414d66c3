import Herald.Text.Digits
import Mathlib.Algebra.Order.Ring.Int
/-!
# Numbers in the order of their texts

Texts are compared character by character, and the first one that differs decides. So
it does for numbers of equally many digits (`Digits.lt_iff_read_lt`), and numbers that
are filled up to a width compare as their texts do, whatever follows them
(`Digits.padded_append_lt_iff`).
-/

namespace Herald

/-- Texts that begin with parts of one length are compared by these first. -/
theorem append_lt_append_iff {a b s t : List Char} (h : a.length = b.length) :
    a ++ s < b ++ t ↔ a < b ∨ (a = b ∧ s < t) := by
  induction a generalizing b with
  | nil =>
    obtain rfl : b = [] := List.length_eq_zero_iff.1 h.symm
    simp
  | cons c a ih =>
    obtain ⟨d, b, rfl⟩ := List.exists_cons_of_length_eq_add_one h.symm
    have hrest := ih (Nat.succ.inj h)
    simp only [List.cons_append, List.cons_lt_cons_iff, hrest, List.cons.injEq]
    constructor
    · rintro (hc | ⟨hc, hab | ⟨hab, hst⟩⟩)
      · exact .inl (.inl hc)
      · exact .inl (.inr ⟨hc, hab⟩)
      · exact .inr ⟨⟨hc, hab⟩, hst⟩
    · rintro ((hc | ⟨hc, hab⟩) | ⟨⟨hc, hab⟩, hst⟩)
      · exact .inl hc
      · exact .inr ⟨hc, .inl hab⟩
      · exact .inr ⟨hc, .inr ⟨hab, hst⟩⟩

namespace Digits

variable {c d : Char} {cs ds : List Char}

/-- A number is written with no more digits than its size asks for. -/
theorem length_write_le {base n k : Nat} (hb : 2 ≤ base) (hk : 0 < k) (h : n < base ^ k) :
    (write base hb n).length ≤ k := by
  fun_induction write base hb n generalizing k with
  | case1 n hn => exact hk
  | case2 n hn ih =>
    obtain ⟨k, rfl⟩ : ∃ j, k = j + 1 := ⟨k - 1, by omega⟩
    rw [Nat.pow_succ] at h
    have hlt : n / base < base ^ k := (Nat.div_lt_iff_lt_mul (by omega)).2 h
    have hpos : 0 < k := by
      refine Nat.pos_of_ne_zero ?_
      rintro rfl
      simp at h
      omega
    simpa using ih hpos hlt

/-- Digits are in the order of their values. -/
theorem digit_lt_digit_iff : ∀ v < 10, ∀ w < 10, digit v < digit w ↔ v < w := by decide

/-- A decimal digit is that of its value. -/
theorem exists_digit_of_isDecimal (h : isDecimal c = true) :
    ∃ v < 10, c = digit v ∧ valueOf c = some v := by
  rw [isDecimal, decide_eq_true_iff] at h
  have hlow : 48 ≤ c.toNat := h.1
  have hhigh : c.toNat ≤ 57 := h.2
  have hlt : c.toNat - 48 < 10 := by omega
  have hsum : 48 + (c.toNat - 48) = c.toNat := by omega
  have hdigit : c = digit (c.toNat - 48) := by
    rw [digit, if_pos hlt, hsum, Char.ofNat_toNat]
  exact ⟨c.toNat - 48, hlt, hdigit, if_pos h⟩

/-- Digits that follow a number leave it as many places ahead. -/
theorem foldl_read (base n : Nat) (cs : List Char) :
    cs.foldl (fun n c => n * base + (valueOf c).getD 0) n = n * base ^ cs.length + read base cs := by
  induction cs generalizing n with
  | nil => simp [read]
  | cons c cs ih =>
    simp only [read, List.foldl_cons, List.length_cons, Nat.pow_succ'] at ih ⊢
    rw [ih, ih (0 * base + _)]
    simp [Nat.add_mul, Nat.mul_assoc, Nat.add_assoc]

/-- The first digit counts for as much as there are digits behind it. -/
theorem read_cons (base : Nat) (c : Char) (cs : List Char) :
    read base (c :: cs) = (valueOf c).getD 0 * base ^ cs.length + read base cs := by
  rw [← foldl_read]
  simp [read]

/-- So many digits write a number with no more of them. -/
theorem read_lt (h : ∀ c ∈ cs, isDecimal c = true) : read 10 cs < 10 ^ cs.length := by
  induction cs with
  | nil => decide
  | cons c cs ih =>
    obtain ⟨hc, hcs⟩ := List.forall_mem_cons.1 h
    obtain ⟨v, hv, -, hvalue⟩ := exists_digit_of_isDecimal hc
    have hrest := ih hcs
    have hfirst : (v + 1) * 10 ^ cs.length ≤ 10 * 10 ^ cs.length := Nat.mul_le_mul_right _ hv
    rw [Nat.add_mul, Nat.one_mul] at hfirst
    rw [read_cons, hvalue, Option.getD_some, List.length_cons, Nat.pow_succ']
    omega

/-- **Of equally many digits, the first that differ decide.** -/
theorem lt_iff_read_lt (hlength : cs.length = ds.length) (hcs : ∀ c ∈ cs, isDecimal c = true)
    (hds : ∀ d ∈ ds, isDecimal d = true) : cs < ds ↔ read 10 cs < read 10 ds := by
  induction cs generalizing ds with
  | nil =>
    obtain rfl : ds = [] := List.length_eq_zero_iff.1 hlength.symm
    simp
  | cons c cs ih =>
    obtain ⟨d, ds, rfl⟩ := List.exists_cons_of_length_eq_add_one hlength.symm
    obtain ⟨hc, hrest⟩ := List.forall_mem_cons.1 hcs
    obtain ⟨hd, hrest'⟩ := List.forall_mem_cons.1 hds
    have hlength' : cs.length = ds.length := Nat.succ.inj hlength
    obtain ⟨v, hv, rfl, hvalue⟩ := exists_digit_of_isDecimal hc
    obtain ⟨w, hw, rfl, hvalue'⟩ := exists_digit_of_isDecimal hd
    have hlt := read_lt hrest
    have hlt' := read_lt hrest'
    have hinj : digit v = digit w ↔ v = w := by
      refine ⟨fun h => ?_, fun h => h ▸ rfl⟩
      rw [h, hvalue'] at hvalue
      exact (Option.some.inj hvalue).symm
    rw [List.cons_lt_cons_iff, digit_lt_digit_iff v hv w hw, hinj, ih hlength' hrest hrest',
      read_cons, read_cons, hvalue, hvalue', Option.getD_some, Option.getD_some, hlength']
    rw [hlength'] at hlt
    -- what follows a digit never makes up for one more of it
    have hmore : ∀ {a b : Nat}, a < b → a * 10 ^ ds.length + 10 ^ ds.length ≤ b * 10 ^ ds.length :=
      fun {a b} hab => by
        rw [← Nat.succ_mul]
        exact Nat.mul_le_mul_right _ hab
    rcases Nat.lt_trichotomy v w with h | rfl | h
    · have := hmore h
      omega
    · omega
    · have := hmore h
      omega

variable {width m n : Nat} {s t : List Char}

/-- A number that is not too long is filled up to the width. -/
theorem length_padded (hwidth : 0 < width) (h : n < 10 ^ width) :
    (padded width n).length = width := by
  have hle : (decimal n).length ≤ width := length_write_le (by omega) hwidth h
  rw [padded, List.length_append, List.length_replicate]
  omega

/-- Two numbers that are not too long have equally long texts when they are filled up. -/
theorem length_padded_eq (hwidth : 0 < width) (hm : m < 10 ^ width) (hn : n < 10 ^ width) :
    (padded width m).length = (padded width n).length := by
  rw [length_padded hwidth hm, length_padded hwidth hn]

/-- **Numbers of one width compare as their texts do.** -/
theorem padded_lt_padded_iff (hwidth : 0 < width) (hm : m < 10 ^ width) (hn : n < 10 ^ width) :
    padded width m < padded width n ↔ m < n := by
  rw [lt_iff_read_lt (length_padded_eq hwidth hm hn) (fun _ => isDecimal_of_mem_padded)
    fun _ => isDecimal_of_mem_padded, read_padded, read_padded]

/-- The same number has the same text, and no other one. -/
theorem padded_inj : padded width m = padded width n ↔ m = n := by
  refine ⟨fun h => ?_, fun h => h ▸ rfl⟩
  have hread := congrArg (read 10) h
  rwa [read_padded, read_padded] at hread

/-- **Filled up numbers decide before anything that follows them.** -/
theorem padded_append_lt_iff (hwidth : 0 < width) (hm : m < 10 ^ width) (hn : n < 10 ^ width) :
    padded width m ++ s < padded width n ++ t ↔ m < n ∨ (m = n ∧ s < t) := by
  rw [append_lt_append_iff (length_padded_eq hwidth hm hn), padded_lt_padded_iff hwidth hm hn,
    padded_inj]

end Digits

end Herald
