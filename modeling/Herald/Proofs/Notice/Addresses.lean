import Herald.Notice.Address
import Herald.Proofs.Text.Ordering
import Mathlib.Algebra.Order.Ring.Int
/-!
# The text of an address

What an address is written as is read as that address (`Address.ofText_text`), so
different addresses have different texts, and it holds hexadecimal digits, dots and
colons only (`Address.isTextChar_of_mem_text`). A number ends where no digit
follows, which is at a dot, a colon or the end; a version 6 address is no dotted one
because it holds no dot or starts with a colon; and a double colon stands for zeros,
since only a run of zeros is left out (`Address.areZeros_longestZeroRun`).
-/

namespace Herald

namespace Address

variable {base most : Nat} {ds rest cs : List Char}

/-! ## Numbers -/

/-- A digit is one of its base. -/
theorem digitIn_digit (h16 : base ≤ 16) {d : Nat} (hd : d < base) :
    digitIn base (Digits.digit d) = some d := by
  simp [digitIn, Digits.valueOf_digit d (by omega), hd]

/-- A written number holds digits of its base only. -/
theorem isSome_digitIn_of_mem_write (hb : 2 ≤ base) (h16 : base ≤ 16) {n : Nat} {c : Char}
    (h : c ∈ Digits.write base hb n) : (digitIn base c).isSome = true := by
  obtain ⟨d, hd, rfl⟩ := Digits.exists_of_mem_write hb h
  simp [digitIn_digit h16 hd]

/-- **Where a number ends**: no digit follows. -/
def Ends (base : Nat) (rest : List Char) : Prop := ∀ c ∈ rest.head?, digitIn base c = none

theorem ends_nil (base : Nat) : Ends base [] := by simp [Ends]

theorem ends_cons {c : Char} (hc : digitIn base c = none) : Ends base (c :: rest) := by
  simpa [Ends] using hc

/-- Where no digit comes there is no number. -/
theorem readNumber_of_ends (h : Ends base cs) : readNumber base most cs = none := by
  have hdigits : cs.takeWhile (fun c => (digitIn base c).isSome) = [] := by
    cases cs with
    | nil => rfl
    | cons c cs => simp [h c (by simp)]
  simp [readNumber, hdigits]

/-- **The digits up to the end are the number.** -/
theorem readNumber_append (hne : ds ≠ []) (hds : ∀ c ∈ ds, (digitIn base c).isSome = true)
    (hlength : ds.length ≤ most) (hrest : Ends base rest) :
    readNumber base most (ds ++ rest) = some (ds, Digits.read base ds, rest) := by
  have hdigits : (ds ++ rest).takeWhile (fun c => (digitIn base c).isSome) = ds := by
    rw [List.takeWhile_append_of_pos hds]
    cases rest with
    | nil => simp
    | cons c rest => simp [hrest c (by simp)]
  simp only [readNumber, hdigits]
  rw [if_pos ⟨hne, hlength⟩, List.drop_left]

/-- A written number that is not too long is read. -/
theorem readNumber_write (hb : 2 ≤ base) (h16 : base ≤ 16) (hmost : 0 < most) {n : Nat}
    (hn : n < base ^ most) (hrest : Ends base rest) :
    readNumber base most (Digits.write base hb n ++ rest)
      = some (Digits.write base hb n, n, rest) := by
  rw [readNumber_append (Digits.write_ne_nil base hb n)
    (fun c => isSome_digitIn_of_mem_write hb h16) (Digits.length_write_le hb hmost hn) hrest,
    Digits.read_write base hb h16]

/-- What a number leaves is the rest of the text. -/
theorem mem_of_readNumber {n : Nat} (h : readNumber base most cs = some (ds, n, rest)) {c : Char}
    (hc : c ∈ rest) : c ∈ cs := by
  simp only [readNumber] at h
  split at h
  · obtain ⟨-, -, rfl⟩ : _ ∧ _ ∧ _ := by simpa using h
    exact List.mem_of_mem_drop hc
  · cases h

/-! ## Version 4 -/

/-- The number of a byte is read. -/
theorem readNumber_decimal (b : UInt8) (hrest : Ends 10 rest) :
    readNumber 10 3 (Digits.decimal b.toNat ++ rest)
      = some (Digits.decimal b.toNat, b.toNat, rest) := by
  have hb := b.toNat_lt
  exact readNumber_write (by omega) (by omega) (by omega) (by omega) hrest

/-- A byte is read from its digits, since they have no leading zero. -/
theorem readByte_decimal (b : UInt8) (hrest : Ends 10 rest) :
    readByte (Digits.decimal b.toNat ++ rest) = some (b, rest) := by
  have hb := b.toNat_lt
  have hzero : ¬ ((Digits.decimal b.toNat).head? = some '0'
      ∧ 1 < (Digits.decimal b.toNat).length) := by
    rintro ⟨hhead, hlength⟩
    obtain ⟨ds, hds⟩ : ∃ ds, Digits.decimal b.toNat = '0' :: ds := by
      rcases hdecimal : Digits.decimal b.toNat with _ | ⟨c, ds⟩ <;> simp_all
    rw [hds, Digits.eq_nil_of_decimal hds] at hlength
    simp at hlength
  simp only [readByte, readNumber_decimal b hrest]
  rw [if_neg (by rintro (h | h) <;> [exact hzero h; omega]), UInt8.ofNat_toNat]

/-- **Four bytes are read.** -/
theorem readDotted_dotted (a b c d : UInt8) (hrest : Ends 10 rest) :
    readDotted (dotted a b c d ++ rest) = some ((a, b, c, d), rest) := by
  have hdot : ∀ cs, Ends 10 ('.' :: cs) := fun cs => ends_cons (by decide)
  simp only [readDotted, dotted, List.append_assoc, List.cons_append,
    readByte_decimal _ (hdot _), readByte_decimal _ hrest, readChar, if_pos, Option.bind_eq_bind,
    Option.bind_some]
  rfl

/-- A text without a dot is not four bytes. -/
theorem readDotted_of_notMem (h : '.' ∉ cs) : readDotted cs = none := by
  simp only [readDotted]
  rcases hbyte : readByte cs with _ | ⟨a, rest⟩
  · rfl
  · have hrest : '.' ∉ rest := by
      simp only [readByte] at hbyte
      split at hbyte
      · next ds n rest' hnumber =>
        split at hbyte
        · cases hbyte
        · obtain ⟨-, rfl⟩ : _ ∧ _ := by simpa using hbyte
          exact fun hmem => h (mem_of_readNumber hnumber hmem)
      · cases hbyte
    have hchar : readChar '.' rest = none := by
      cases rest with
      | nil => rfl
      | cons c rest =>
        simp only [List.mem_cons, not_or] at hrest
        simp [readChar, Ne.symm hrest.1]
    simp [hchar]

/-- A text that starts without a digit is not four bytes. -/
theorem readDotted_of_ends (h : Ends 10 cs) : readDotted cs = none := by
  simp [readDotted, readByte, readNumber_of_ends h]

/-! ## Groups -/

/-- A group is read. -/
theorem readNumber_hexadecimal (g : UInt16) (hrest : Ends 16 rest) :
    readNumber 16 4 (Digits.hexadecimal g.toNat ++ rest)
      = some (Digits.hexadecimal g.toNat, g.toNat, rest) :=
  readNumber_write (by omega) (by omega) (by omega) g.toNat_lt hrest

/-- Groups with a colon before each, but for the first of a part. -/
def separated : Bool → List UInt16 → List Char
  | _, [] => []
  | isFirst, g :: gs =>
    (if isFirst then [] else [':']) ++ Digits.hexadecimal g.toNat ++ separated false gs

theorem colonSeparated_eq (gs : List UInt16) : colonSeparated gs = separated true gs := by
  fun_induction colonSeparated gs with
  | case1 => rfl
  | case2 g => simp [separated]
  | case3 g h rest ih => simp [ih, separated]

/-- Groups hold no dot. -/
theorem notMem_separated (isFirst : Bool) (gs : List UInt16) : '.' ∉ separated isFirst gs := by
  induction gs generalizing isFirst with
  | nil => simp [separated]
  | cons g gs ih =>
    have hg : '.' ∉ Digits.hexadecimal g.toNat := fun h => by
      have hdigit := isSome_digitIn_of_mem_write (by omega) (Nat.le_refl 16) h
      revert hdigit
      decide
    cases isFirst <;> simp [separated, hg, ih]

/-- What follows a part of groups: nothing, or the double colon. -/
inductive Follows : List Char → Prop
  | nothing : Follows []
  | doubleColon (rest : List Char) : Follows (':' :: ':' :: rest)

theorem Follows.ends (h : Follows rest) : Ends 16 rest := by
  cases h with
  | nothing => exact ends_nil 16
  | doubleColon rest => exact ends_cons (by decide)

/-- No group is read from it. -/
theorem Follows.readNumber (h : Follows rest) (isFirst : Bool) :
    (readSeparator isFirst rest >>= readNumber 16 4) = none := by
  cases h with
  | nothing => cases isFirst <;> rfl
  | doubleColon rest =>
    have hcolon : ∀ cs, readNumber 16 4 (':' :: cs) = none := fun cs =>
      readNumber_of_ends (ends_cons (by decide))
    cases isFirst <;> simp [readSeparator, readChar, hcolon]

/-- A part without a dot has no dotted end. -/
theorem readDotted_of_part (h : '.' ∉ cs) (isFirst : Bool) :
    (readSeparator isFirst cs >>= readDotted) = none := by
  cases isFirst with
  | true => exact readDotted_of_notMem h
  | false =>
    cases cs with
    | nil => rfl
    | cons c cs =>
      simp only [List.mem_cons, not_or] at h
      simp only [readSeparator, Bool.false_eq_true, if_false, readChar]
      split <;> simp [readDotted_of_notMem h.2]

/-- **A part is read** up to its end. -/
theorem readGroups_separated (gs : List UInt16) {limit : Nat} (hlimit : gs.length ≤ limit)
    (hrest : Follows rest) (hdot : '.' ∉ rest) (isFirst : Bool) :
    readGroups isFirst (separated isFirst gs ++ rest) limit = (gs, false, rest) := by
  induction gs generalizing limit isFirst with
  | nil =>
    cases limit with
    | zero => rfl
    | succ limit =>
      rw [separated, List.nil_append, readGroups, readDotted_of_part hdot, hrest.readNumber]
      simp
  | cons g gs ih =>
    obtain ⟨limit, rfl⟩ : ∃ l, limit = l + 1 := ⟨limit - 1, by simp at hlimit; omega⟩
    have hdot' : '.' ∉ separated isFirst (g :: gs) ++ rest := by
      rw [List.mem_append, not_or]
      exact ⟨notMem_separated isFirst _, hdot⟩
    have hends : Ends 16 (separated false gs ++ rest) := by
      cases gs with
      | nil => exact hrest.ends
      | cons h gs => exact ends_cons (by decide)
    have hnumber : (readSeparator isFirst (separated isFirst (g :: gs) ++ rest)
        >>= readNumber 16 4)
        = some (Digits.hexadecimal g.toNat, g.toNat, separated false gs ++ rest) := by
      have hread := readNumber_hexadecimal g hends
      cases isFirst <;> simpa [separated, readSeparator, readChar] using hread
    rw [readGroups, readDotted_of_part hdot', hnumber]
    simp [ih (by simpa using hlimit) false]

/-! ## The zeros that are left out -/

/-- A run is one of zeros. -/
def AreZeros (gs : List UInt16) (r : Run) : Prop :=
  ∀ i, r.start ≤ i → i < r.start + r.length → gs[i]? = some 0

/-- The head of what is left of a list. -/
theorem drop_eq_cons {gs rest : List UInt16} {g : UInt16} {i : Nat} (h : gs.drop i = g :: rest) :
    gs[i]? = some g ∧ gs.drop (i + 1) = rest := by
  have hhead : (gs.drop i)[0]? = gs[i]? := by simp
  refine ⟨?_, ?_⟩
  · rw [← hhead, h, List.getElem?_cons_zero]
  · rw [← List.tail_drop, h, List.tail_cons]

/-- **What is found is a run of zeros.** The best so far is one, and so is the
current one, which ends at the position that has been reached. -/
theorem areZeros_longestZeroRun {gs rest : List UInt16} {best current : Run} {i : Nat}
    (hrest : gs.drop i = rest) (hbest : AreZeros gs best) (hcurrent : AreZeros gs current)
    (hend : current.length = 0 ∨ current.start + current.length = i) :
    AreZeros gs (longestZeroRun best current i rest) := by
  fun_induction longestZeroRun best current i rest with
  | case1 best current i => exact hbest
  | case2 best current i rest current' best' ih =>
    obtain ⟨hget, hdrop⟩ := drop_eq_cons hrest
    -- one zero more, or the first one
    have hgrown : current'.start + current'.length = i + 1 ∧ AreZeros gs current' := by
      by_cases hempty : current.length = 0
      · have hcurrent' : current' = ⟨i, 1⟩ := if_pos hempty
        rw [hcurrent']
        refine ⟨rfl, fun j hj hlt => ?_⟩
        obtain rfl : j = i := by
          simp only at hj hlt
          omega
        exact hget
      · have hcurrent' : current' = ⟨current.start, current.length + 1⟩ := if_neg hempty
        rw [hcurrent']
        refine ⟨by simp only; omega, fun j hj hlt => ?_⟩
        rcases Nat.lt_or_ge j (current.start + current.length) with hold | hnew
        · exact hcurrent j hj hold
        · obtain rfl : j = i := by
            simp only at hj hlt
            omega
          exact hget
    refine ih hdrop ?_ hgrown.2 (.inr hgrown.1)
    simp only [best']
    split
    · exact hgrown.2
    · exact hbest
  | case3 best current i g rest hg ih =>
    exact ih (drop_eq_cons hrest).2 hbest (fun j hj hlt => absurd hlt (by simp)) (.inl rfl)

/-- What a run of zeros leaves out is zeros, and what is written is the rest. -/
theorem append_zeros_append {gs : List UInt16} {r : Run} (h : AreZeros gs r)
    (hlength : 0 < r.length) :
    r.start + r.length ≤ gs.length ∧
      gs.take r.start ++ List.replicate r.length 0 ++ gs.drop (r.start + r.length) = gs := by
  have hlast := h (r.start + r.length - 1) (by omega) (by omega)
  obtain ⟨hlt, -⟩ := List.getElem?_eq_some_iff.1 hlast
  have hle : r.start + r.length ≤ gs.length := by omega
  have hzeros : (gs.drop r.start).take r.length = List.replicate r.length 0 := by
    refine List.eq_replicate_iff.2 ⟨by simp; omega, fun g hg => ?_⟩
    obtain ⟨i, hi, rfl⟩ := List.mem_iff_getElem.1 hg
    have hi' : i < r.length := by simp at hi; omega
    have hget := h (r.start + i) (by omega) (by omega)
    rw [List.getElem_take, List.getElem_drop]
    exact (List.getElem?_eq_some_iff.1 hget).2
  refine ⟨hle, ?_⟩
  rw [← hzeros, ← List.drop_drop, List.append_assoc, List.take_append_drop,
    List.take_append_drop]

/-! ## Version 6 -/

/-- Eight groups are an address. -/
theorem ofGroups_toList (groups : Vector UInt16 8) :
    ofGroups groups.toList = some (.v6 groups) := by
  simp [ofGroups, Vector.toList]

/-- **Eight groups are read.** -/
theorem readV6_compressed (groups : Vector UInt16 8) :
    readV6 (compressed groups.toList) = some (.v6 groups, []) := by
  have hlength : groups.toList.length = 8 := by simp
  rw [compressed]
  obtain ⟨run, hrun⟩ : ∃ r, longestZeroRun ⟨0, 0⟩ ⟨0, 0⟩ 0 groups.toList = r := ⟨_, rfl⟩
  simp only [hrun]
  split
  · next hlong =>
    -- the run is left out, and the double colon stands for it
    have hnone : AreZeros groups.toList ⟨0, 0⟩ := fun i _ hlt => absurd hlt (by simp)
    have hzeros : AreZeros groups.toList run :=
      hrun ▸ areZeros_longestZeroRun List.drop_zero hnone hnone (.inl rfl)
    obtain ⟨hle, hwhole⟩ := append_zeros_append hzeros (by omega)
    have hfront : (groups.toList.take run.start).length = run.start := by simp; omega
    have hback : (groups.toList.drop (run.start + run.length)).length
        = 8 - (run.start + run.length) := by simp
    have hdots :
        '.' ∉ ':' :: ':' :: colonSeparated (groups.toList.drop (run.start + run.length)) := by
      simp [colonSeparated_eq, notMem_separated]
    have hreadFront := readGroups_separated (groups.toList.take run.start)
      (show _ ≤ 8 by omega) (.doubleColon _) hdots true
    have hreadBack := readGroups_separated (groups.toList.drop (run.start + run.length))
      (show _ ≤ 7 - run.start by omega) .nothing (by simp) true
    rw [List.append_nil] at hreadBack
    rw [← colonSeparated_eq] at hreadFront hreadBack
    have hleft : 8 - run.start - (8 - (run.start + run.length)) = run.length := by omega
    simp only [readV6, hreadFront, hfront, readChar, if_pos, Option.bind_eq_bind,
      Option.bind_some, hreadBack, hback, hleft, hwhole, ofGroups_toList]
    rw [if_neg (by omega)]
    rfl
  · have hread := readGroups_separated groups.toList (show _ ≤ 8 by omega) .nothing (by simp) true
    rw [List.append_nil, ← colonSeparated_eq] at hread
    simp [readV6, hread, ofGroups_toList]

/-- A group is that of its two bytes. -/
theorem groupOf_bytes (g : UInt16) : groupOf (highByte g) (lowByte g) = g := by
  have hg := g.toNat_lt
  refine UInt16.toNat_inj.1 ?_
  simp [groupOf, highByte, lowByte]
  omega

/-- Nothing is read in front of the double colon. -/
theorem readGroups_doubleColon (cs : List Char) (limit : Nat) :
    readGroups true (':' :: ':' :: cs) limit = ([], false, ':' :: ':' :: cs) := by
  have hcolon : Ends 10 (':' :: ':' :: cs) := ends_cons (by decide)
  have hdotted : (readSeparator true (':' :: ':' :: cs) >>= readDotted) = none :=
    readDotted_of_ends hcolon
  cases limit with
  | zero => rfl
  | succ limit =>
    rw [readGroups, (Follows.doubleColon cs).readNumber true, hdotted]
    simp

/-- **An address that maps one of version 4 is read**: behind the double colon and
its mark comes a dotted end. -/
theorem readV6_mapped (g h : UInt16) :
    readV6 ([':', ':', 'f', 'f', 'f', 'f', ':']
        ++ dotted (highByte g) (lowByte g) (highByte h) (lowByte h))
      = (ofGroups [0, 0, 0, 0, 0, 0xffff, g, h]).map fun a => (a, []) := by
  obtain ⟨tail, htail⟩ : ∃ t, dotted (highByte g) (lowByte g) (highByte h) (lowByte h) = t :=
    ⟨_, rfl⟩
  have hdotted : readDotted tail = some ((highByte g, lowByte g, highByte h, lowByte h), []) := by
    have hread := readDotted_dotted (highByte g) (lowByte g) (highByte h) (lowByte h) (ends_nil 10)
    rwa [List.append_nil, htail] at hread
  have hend : readGroups false (':' :: tail) 6 = ([g, h], true, []) := by
    have hread : (readSeparator false (':' :: tail) >>= readDotted)
        = some ((highByte g, lowByte g, highByte h, lowByte h), []) := by
      simpa [readSeparator, readChar] using hdotted
    rw [readGroups, hread]
    simp [groupOf_bytes]
  have hback : readGroups true ('f' :: 'f' :: 'f' :: 'f' :: ':' :: tail) 7
      = ([0xffff, g, h], true, []) := by
    have hletter : Ends 10 ('f' :: 'f' :: 'f' :: 'f' :: ':' :: tail) := ends_cons (by decide)
    have hdigits : ∀ c ∈ ['f', 'f', 'f', 'f'], (digitIn 16 c).isSome = true :=
      List.all_eq_true.1 rfl
    have hcolon : Ends 16 (':' :: tail) := ends_cons (by decide)
    have hnot : (readSeparator true ('f' :: 'f' :: 'f' :: 'f' :: ':' :: tail) >>= readDotted)
        = none := readDotted_of_ends hletter
    have hmark : (readSeparator true ('f' :: 'f' :: 'f' :: 'f' :: ':' :: tail)
        >>= readNumber 16 4) = some (['f', 'f', 'f', 'f'], 0xffff, ':' :: tail) :=
      readNumber_append (List.cons_ne_nil _ _) hdigits (Nat.le_refl 4) hcolon
    rw [readGroups, hnot, hmark]
    simp [hend]
  rw [htail]
  simp [readV6, readGroups_doubleColon, readChar, hback, List.replicate]

/-- **What is written is read.** -/
theorem ofText_text (a : Address) : ofText a.text = some a := by
  cases a with
  | v4 a b c d =>
    have hread := readDotted_dotted a b c d (ends_nil 10)
    rw [List.append_nil] at hread
    simp [ofText, text, hread]
  | v6 groups =>
    simp only [text]
    unfold groupsText
    split
    · next g h hgroups =>
      have hread := readV6_mapped g h
      rw [← hgroups, ofGroups_toList] at hread
      have hcolon : Ends 10 ([':', ':', 'f', 'f', 'f', 'f', ':']
        ++ dotted (highByte g) (lowByte g) (highByte h) (lowByte h)) := ends_cons (by decide)
      simp only [ofText, readDotted_of_ends hcolon, hread]
      rfl
    · have hnot : readDotted (compressed groups.toList) = none := by
        refine readDotted_of_notMem ?_
        simp only [compressed]
        split <;> simp [colonSeparated_eq, notMem_separated]
      simp [ofText, hnot, readV6_compressed]

/-- **Different addresses have different texts.** -/
theorem text_inj {a b : Address} : a.text = b.text ↔ a = b := by
  refine ⟨fun h => ?_, fun h => h ▸ rfl⟩
  have hread := congrArg ofText h
  rw [ofText_text, ofText_text] at hread
  exact Option.some.inj hread

/-! ## The characters of an address -/

/-- Whether a character can be in the text of an address. -/
def isTextChar (c : Char) : Bool := (digitIn 16 c).isSome || c == '.' || c == ':'

/-- The digits of a number can be in the text of an address. -/
theorem isTextChar_of_mem_write (hb : 2 ≤ base) (h16 : base ≤ 16) {n : Nat} {c : Char}
    (h : c ∈ Digits.write base hb n) : isTextChar c = true := by
  obtain ⟨d, hd, rfl⟩ := Digits.exists_of_mem_write hb h
  have hdigit : digitIn 16 (Digits.digit d) = some d := digitIn_digit (Nat.le_refl 16) (by omega)
  simp [isTextChar, hdigit]

theorem isTextChar_of_mem_dotted {a b c d : UInt8} {x : Char} (h : x ∈ dotted a b c d) :
    isTextChar x = true := by
  simp only [dotted, List.mem_append, List.mem_cons, Digits.decimal] at h
  rcases h with ((h | rfl | h) | rfl | h) | rfl | h
  all_goals first | exact isTextChar_of_mem_write (by omega) (by omega) h | rfl

theorem isTextChar_of_mem_separated {gs : List UInt16} {isFirst : Bool} {c : Char}
    (h : c ∈ separated isFirst gs) : isTextChar c = true := by
  induction gs generalizing isFirst with
  | nil => cases h
  | cons g gs ih =>
    simp only [separated, List.mem_append, Digits.hexadecimal] at h
    rcases h with (h | h) | h
    · cases isFirst with
      | true => cases h
      | false =>
        rw [List.mem_singleton.1 h]
        rfl
    · exact isTextChar_of_mem_write (by omega) (by omega) h
    · exact ih h

/-- **An address is written in hexadecimal digits, dots and colons.** -/
theorem isTextChar_of_mem_text {a : Address} {c : Char} (h : c ∈ a.text) :
    isTextChar c = true := by
  cases a with
  | v4 a b c d => exact isTextChar_of_mem_dotted h
  | v6 groups =>
    simp only [text] at h
    unfold groupsText at h
    split at h
    · have hmark : ∀ c ∈ [':', ':', 'f', 'f', 'f', 'f', ':'], isTextChar c = true :=
        List.all_eq_true.1 rfl
      rcases List.mem_append.1 h with h | h
      · exact hmark c h
      · exact isTextChar_of_mem_dotted h
    · simp only [compressed, colonSeparated_eq] at h
      split at h
      · simp only [List.mem_append, List.mem_cons] at h
        rcases h with h | rfl | rfl | h
        all_goals first | exact isTextChar_of_mem_separated h | rfl
      · exact isTextChar_of_mem_separated h

/-- Other characters are not in it. -/
theorem notMem_text {c : Char} (hc : isTextChar c = false) (a : Address) : c ∉ a.text := fun h => by
  rw [isTextChar_of_mem_text h] at hc
  cases hc

end Address

end Herald
