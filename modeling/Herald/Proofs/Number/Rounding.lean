import Herald.Number.Binary64
import Mathlib.Data.Nat.Dist
/-!
# Rounding to a double

`Binary64.ofUnits` picks a scale, divides, and moves one place on if the mantissa got
too long. What comes of it is the double nearest to the ratio, and the even one of two
that are equally near (`Binary64.rounds_ofUnits`), where "near" is measured against
every double there is and not against those of one scale only. Everything else is read
off that, by comparison with a double that lies on the other side of the ratio:
nothing rounds past a double (`Rounds.le_of_le`, `Rounds.ge_of_le`), rounding keeps
the order (`Rounds.mono`), and a ratio has one rounding (`Rounds.unique`).
-/

namespace Herald

variable {n d D q k : Nat}

/-- What is as near as a number above is not beyond it. -/
theorem le_of_dist_le {x u : Nat} (h : Nat.dist x n ≤ Nat.dist u n) (hu : n ≤ u) : x ≤ u := by
  unfold Nat.dist at h
  omega

/-- What is as near as a number below is not short of it. -/
theorem ge_of_dist_le {x u : Nat} (h : Nat.dist x n ≤ Nat.dist u n) (hu : u ≤ n) : u ≤ x := by
  unfold Nat.dist at h
  omega

/-! ## Whole quotients -/

/-- A rounded quotient is the one below or the one above, whichever is nearer. -/
theorem roundDiv_cases (n D : Nat) :
    (roundDiv n D = n / D ∧ 2 * (n % D) ≤ D) ∨ (roundDiv n D = n / D + 1 ∧ D ≤ 2 * (n % D)) := by
  simp only [roundDiv]
  split
  · omega
  · split <;> omega

/-- Halfway between two it is the even one. -/
theorem roundDiv_even_of_half (h : 2 * (n % D) = D) : roundDiv n D % 2 = 0 := by
  simp only [roundDiv]
  rw [if_neg (by omega), if_neg (by omega)]
  omega

/-- The multiples of a divisor on either side of a number. -/
theorem mul_le_or_le_mul (n D q : Nat) : q * D ≤ n / D * D ∨ n / D * D + D ≤ q * D := by
  rcases Nat.lt_or_ge (n / D) q with h | h
  · have := Nat.mul_le_mul_right D h
    rw [Nat.succ_mul] at this
    exact .inr this
  · exact .inl (Nat.mul_le_mul_right D h)

/-- **No whole number is nearer** to a quotient than the rounded one. -/
theorem roundDiv_nearest (hD : 0 < D) (q : Nat) :
    Nat.dist (roundDiv n D * D) n ≤ Nat.dist (q * D) n := by
  have hn : n / D * D + n % D = n := Nat.div_add_mod' n D
  have hr : n % D < D := Nat.mod_lt n hD
  have hq := mul_le_or_le_mul n D q
  unfold Nat.dist
  rcases roundDiv_cases n D with ⟨h, hhalf⟩ | ⟨h, hhalf⟩
  · rw [h]
    omega
  · rw [h, Nat.succ_mul]
    omega

/-- **Of two that are equally near** it is the even one. -/
theorem roundDiv_even (hD : 0 < D) (hne : q ≠ roundDiv n D)
    (htie : Nat.dist (q * D) n = Nat.dist (roundDiv n D * D) n) : roundDiv n D % 2 = 0 := by
  refine roundDiv_even_of_half ?_
  have hn : n / D * D + n % D = n := Nat.div_add_mod' n D
  have hr : n % D < D := Nat.mod_lt n hD
  have hne' : q * D ≠ roundDiv n D * D := fun h => hne (Nat.mul_right_cancel hD h)
  have hq := mul_le_or_le_mul n D q
  unfold Nat.dist at htie
  rcases roundDiv_cases n D with ⟨h, hhalf⟩ | ⟨h, hhalf⟩
  · rw [h] at htie hne'
    omega
  · rw [h, Nat.succ_mul] at htie hne'
    omega

/-- A rounded quotient is no more than a whole number that the quotient does not pass. -/
theorem roundDiv_le (hD : 0 < D) (h : n ≤ q * D) : roundDiv n D ≤ q :=
  Nat.le_of_mul_le_mul_right (le_of_dist_le (roundDiv_nearest hD q) h) hD

/-- A rounded quotient is no less than a whole number that the quotient reaches. -/
theorem le_roundDiv (hD : 0 < D) (h : q * D ≤ n) : q ≤ roundDiv n D :=
  Nat.le_of_mul_le_mul_right (ge_of_dist_le (roundDiv_nearest hD q) h) hD

namespace Binary64

variable {x y : Binary64}

/-- **A double**: its mantissa has 53 bits at most. -/
def IsDouble (x : Binary64) : Prop := x.mantissa < 0x20_0000_0000_0000

/-- Whether it is one can be decided. -/
instance (x : Binary64) : Decidable x.IsDouble :=
  inferInstanceAs (Decidable (x.mantissa < 0x20_0000_0000_0000))

/-- A power of two is one. -/
theorem isDouble_full (k : Nat) : IsDouble ⟨0x10_0000_0000_0000, k⟩ := by
  change 0x10_0000_0000_0000 < 0x20_0000_0000_0000
  decide

/-- A double in the form it is stored in: its mantissa is full unless its scale is the
least. -/
structure IsStored (x : Binary64) : Prop where
  isDouble : x.IsDouble
  full : 0x10_0000_0000_0000 ≤ x.mantissa ∨ x.scale = 0

/-- **A double is the rounding of `n / d` units**: none is nearer, and if another one is
as near, its mantissa is the even one of the two. -/
structure Rounds (x : Binary64) (n d : Nat) : Prop where
  stored : x.IsStored
  nearest : ∀ y : Binary64, y.IsDouble → Nat.dist (x.units * d) n ≤ Nat.dist (y.units * d) n
  even : ∀ y : Binary64, y.IsDouble → y.units ≠ x.units →
    Nat.dist (y.units * d) n = Nat.dist (x.units * d) n → x.mantissa % 2 = 0

/-- The scale a ratio is rounded at. -/
def scaleFor (n d : Nat) : Nat := Nat.log2 (n / d) - 52

theorem ofUnits_eq (n d : Nat) :
    ofUnits n d =
      if roundDiv n (d <<< scaleFor n d) = 0x20_0000_0000_0000
      then ⟨0x10_0000_0000_0000, scaleFor n d + 1⟩
      else ⟨roundDiv n (d <<< scaleFor n d), scaleFor n d⟩ := rfl

/-- Places of a scale go over into the divisor. -/
theorem two_pow_add_mul (e k d : Nat) : 2 ^ (e + k) * d = 2 ^ e * (d <<< k) := by
  rw [Nat.pow_add, Nat.shiftLeft_eq, Nat.mul_comm d, Nat.mul_assoc]

/-- At its scale a ratio has 53 places at most. -/
theorem lt_scaleFor (hd : 0 < d) : n < 0x20_0000_0000_0000 * (d <<< scaleFor n d) := by
  have hlog : n / d < 2 ^ (53 + scaleFor n d) := by
    refine Nat.lt_of_lt_of_le Nat.lt_log2_self (Nat.pow_le_pow_right (by decide) ?_)
    rw [scaleFor]
    omega
  have hn := (Nat.div_lt_iff_lt_mul hd).1 hlog
  rw [two_pow_add_mul] at hn
  exact hn

/-- At its scale a ratio has 53 places at least, unless the scale is the least. -/
theorem scaleFor_le (hd : 0 < d) (h : 0 < scaleFor n d) :
    0x10_0000_0000_0000 * (d <<< scaleFor n d) ≤ n := by
  have hlog : Nat.log2 (n / d) = 52 + scaleFor n d := by
    rw [scaleFor] at h ⊢
    omega
  have hne : n / d ≠ 0 := by
    intro h0
    rw [h0, Nat.log2_zero] at hlog
    omega
  have hn := (Nat.le_div_iff_mul_le hd).1 (hlog ▸ Nat.log2_self_le hne)
  rw [two_pow_add_mul] at hn
  exact hn

/-- Units of a scale times a divisor are the divisor of that scale so often. -/
theorem shiftLeft_mul (q k d : Nat) : (q <<< k) * d = q * (d <<< k) := by
  rw [Nat.shiftLeft_eq, Nat.shiftLeft_eq, Nat.mul_assoc, Nat.mul_comm (2 ^ k)]

theorem shiftLeft_pos (hd : 0 < d) (k : Nat) : 0 < d <<< k := by
  rw [Nat.shiftLeft_eq]
  exact Nat.mul_pos hd (Nat.two_pow_pos k)

/-- Whole numbers keep their strict order as units of any scale. -/
theorem shiftLeft_lt_iff {p q : Nat} (k : Nat) : p <<< k < q <<< k ↔ p < q := by
  rw [Nat.shiftLeft_eq, Nat.shiftLeft_eq, Nat.mul_lt_mul_right (Nat.two_pow_pos k)]

theorem shiftLeft_inj {p q : Nat} (k : Nat) (h : p <<< k = q <<< k) : p = q := by
  rw [Nat.shiftLeft_eq, Nat.shiftLeft_eq] at h
  exact Nat.mul_right_cancel (Nat.two_pow_pos k) h

/-- A mantissa that is too long by one is a full one of the next scale. -/
theorem full_shiftLeft_succ (k : Nat) :
    0x10_0000_0000_0000 <<< (k + 1) = 0x20_0000_0000_0000 <<< k := by
  rw [Nat.shiftLeft_succ, Nat.shiftLeft_eq, Nat.shiftLeft_eq]
  omega

/-- What is counted at a scale is counted at each scale below it. -/
theorem exists_units_eq (h : k ≤ x.scale) : ∃ q, x.units = q <<< k := by
  refine ⟨x.mantissa <<< (x.scale - k), ?_⟩
  rw [units, ← Nat.shiftLeft_add, Nat.sub_add_cancel h]

/-- A double is smaller than a full mantissa of a larger scale. -/
theorem units_lt_full (hx : x.IsDouble) (h : x.scale < k) :
    x.units < 0x10_0000_0000_0000 <<< k := by
  obtain ⟨i, rfl⟩ := Nat.exists_eq_add_of_lt h
  have hlt : x.mantissa < 0x10_0000_0000_0000 <<< (i + 1) := by
    have hpos := Nat.two_pow_pos i
    rw [Nat.shiftLeft_succ, Nat.shiftLeft_eq]
    unfold IsDouble at hx
    omega
  rw [units, Nat.add_assoc, Nat.add_comm x.scale, Nat.shiftLeft_add]
  exact (shiftLeft_lt_iff x.scale).2 hlt

/-- The units a ratio is rounded to. -/
theorem units_ofUnits (n d : Nat) :
    (ofUnits n d).units = roundDiv n (d <<< scaleFor n d) <<< scaleFor n d := by
  rw [ofUnits_eq]
  split
  · next h =>
    change 0x10_0000_0000_0000 <<< (scaleFor n d + 1) = _
    rw [h, full_shiftLeft_succ]
  · rfl

/-- A rounding is in the form it is stored in. -/
theorem isStored_ofUnits (hd : 0 < d) : (ofUnits n d).IsStored := by
  have hD : 0 < d <<< scaleFor n d := shiftLeft_pos hd _
  have hle := roundDiv_le hD (Nat.le_of_lt (lt_scaleFor (n := n) hd))
  rw [ofUnits_eq]
  split
  · exact ⟨isDouble_full _, .inl (Nat.le_refl _)⟩
  · next hne =>
    refine ⟨Nat.lt_of_le_of_ne hle hne, ?_⟩
    rcases Nat.eq_zero_or_pos (scaleFor n d) with h0 | hpos
    · exact .inr h0
    · exact .inl (le_roundDiv hD (scaleFor_le hd hpos))

/-- A double either has the scale of a rounding or a larger one, or it is small, and
then a full mantissa of the scale lies between it and the ratio. -/
theorem exists_units_eq_or_farther (hd : 0 < d) (hy : y.IsDouble) :
    (∃ q, y.units = q <<< scaleFor n d) ∨
      Nat.dist ((ofUnits n d).units * d) n < Nat.dist (y.units * d) n := by
  rcases Nat.lt_or_ge y.scale (scaleFor n d) with h | h
  · have hfull := scaleFor_le hd (Nat.lt_of_le_of_lt (Nat.zero_le _) h)
    have hlt := Nat.mul_lt_mul_of_pos_right (units_lt_full hy h) hd
    have hnear := roundDiv_nearest (n := n) (shiftLeft_pos hd (scaleFor n d)) 0x10_0000_0000_0000
    rw [shiftLeft_mul] at hlt
    rw [units_ofUnits, shiftLeft_mul]
    unfold Nat.dist at *
    exact .inr (by omega)
  · exact .inl (exists_units_eq h)

/-- **What is picked is the rounding.** -/
theorem rounds_ofUnits (n : Nat) (hd : 0 < d) : (ofUnits n d).Rounds n d := by
  have hD : 0 < d <<< scaleFor n d := shiftLeft_pos hd _
  refine ⟨isStored_ofUnits hd, fun y hy => ?_, fun y hy hne htie => ?_⟩
  · rcases exists_units_eq_or_farther (n := n) hd hy with ⟨q, hq⟩ | hfar
    · rw [hq, units_ofUnits, shiftLeft_mul, shiftLeft_mul]
      exact roundDiv_nearest hD q
    · exact Nat.le_of_lt hfar
  · rcases exists_units_eq_or_farther (n := n) hd hy with ⟨q, hq⟩ | hfar
    · rw [hq, units_ofUnits] at hne htie
      rw [shiftLeft_mul, shiftLeft_mul] at htie
      have heven := roundDiv_even hD (fun h => hne (h ▸ rfl)) htie
      rw [ofUnits_eq]
      split
      · change 0x10_0000_0000_0000 % 2 = 0
        decide
      · exact heven
    · omega

/-! ## What follows from being nearest -/

/-- **Nothing is rounded up past a double** that it does not pass. -/
theorem Rounds.le_of_le (h : x.Rounds n d) (hd : 0 < d) (hy : y.IsDouble)
    (hn : n ≤ y.units * d) : x.units ≤ y.units :=
  Nat.le_of_mul_le_mul_right (le_of_dist_le (h.nearest y hy) hn) hd

/-- **Nothing is rounded down past a double** that it reaches. -/
theorem Rounds.ge_of_le (h : x.Rounds n d) (hd : 0 < d) (hy : y.IsDouble)
    (hn : y.units * d ≤ n) : y.units ≤ x.units :=
  Nat.le_of_mul_le_mul_right (ge_of_dist_le (h.nearest y hy) hn) hd

/-- A double of a larger scale is larger, stored as it is with a full mantissa. -/
theorem IsStored.units_lt_units (hx : x.IsStored) (hy : y.IsDouble) (h : y.scale < x.scale) :
    y.units < x.units := by
  refine Nat.lt_of_lt_of_le (units_lt_full hy h) (Nat.le_of_not_lt fun hlt => ?_)
  have := (shiftLeft_lt_iff x.scale).1 hlt
  have := hx.full
  omega

/-- A double is stored in one way only. -/
theorem IsStored.eq_of_units_eq (hx : x.IsStored) (hy : y.IsStored) (h : x.units = y.units) :
    x = y := by
  have hscale : x.scale = y.scale := by
    rcases Nat.lt_trichotomy x.scale y.scale with hlt | heq | hlt
    · have := hy.units_lt_units hx.isDouble hlt
      omega
    · exact heq
    · have := hx.units_lt_units hy.isDouble hlt
      omega
  obtain ⟨m, k⟩ := x
  obtain ⟨m', k'⟩ := y
  change k = k' at hscale
  subst hscale
  have hmantissa : m = m' := shiftLeft_inj k h
  rw [hmantissa]

/-- One more of the scale of a double is a double as well, if need be of the next
scale. -/
theorem exists_next (hx : x.IsDouble) :
    ∃ z : Binary64, z.IsDouble ∧ z.units = (x.mantissa + 1) <<< x.scale := by
  unfold IsDouble at hx
  by_cases hlt : x.mantissa + 1 < 0x20_0000_0000_0000
  · exact ⟨⟨x.mantissa + 1, x.scale⟩, hlt, rfl⟩
  · have hfull : x.mantissa + 1 = 0x20_0000_0000_0000 := by omega
    refine ⟨⟨0x10_0000_0000_0000, x.scale + 1⟩, isDouble_full _, ?_⟩
    change 0x10_0000_0000_0000 <<< (x.scale + 1) = _
    rw [hfull, full_shiftLeft_succ]

/-- There is no double between one and the next. -/
theorem IsStored.next_le (hx : x.IsStored) (hy : y.IsDouble) (h : x.units < y.units) :
    (x.mantissa + 1) <<< x.scale ≤ y.units := by
  have hscale : x.scale ≤ y.scale := by
    refine Nat.le_of_not_lt fun hlt => ?_
    have := hx.units_lt_units hy hlt
    omega
  obtain ⟨q, hq⟩ := exists_units_eq hscale
  rw [hq] at h ⊢
  refine Nat.le_of_not_lt fun hlt => ?_
  have hmore := (shiftLeft_lt_iff x.scale).1 h
  have hfewer := (shiftLeft_lt_iff x.scale).1 hlt
  omega

/-- **Of two neighbours one has an odd mantissa**: either they have one scale, or the
upper one is a power of two and the lower one all ones. -/
theorem IsStored.odd_of_next (hx : x.IsStored) (hy : y.IsStored)
    (h : y.units = (x.mantissa + 1) <<< x.scale) (heven : x.mantissa % 2 = 0) :
    y.mantissa % 2 = 1 := by
  have hm := hx.isDouble
  unfold IsDouble at hm
  rcases Nat.lt_trichotomy x.scale y.scale with hlt | heq | hlt
  · have hones : IsDouble ⟨0x1f_ffff_ffff_ffff, x.scale⟩ := by
      change 0x1f_ffff_ffff_ffff < 0x20_0000_0000_0000
      decide
    have hbelow : 0x1f_ffff_ffff_ffff <<< x.scale < (x.mantissa + 1) <<< x.scale :=
      h ▸ hy.units_lt_units hones hlt
    have := (shiftLeft_lt_iff x.scale).1 hbelow
    omega
  · rw [units, heq] at h
    have := shiftLeft_inj _ h
    omega
  · have hbelow := hx.units_lt_units hy.isDouble hlt
    rw [h] at hbelow
    have := (shiftLeft_lt_iff x.scale).1 hbelow
    omega

/-- Of two roundings of a ratio neither is smaller: they would be neighbours, with the
ratio halfway between them, and both even. -/
theorem Rounds.units_le (hx : x.Rounds n d) (hy : y.Rounds n d) (hd : 0 < d) :
    y.units ≤ x.units := by
  refine Nat.le_of_not_lt fun hlt => ?_
  have htie : Nat.dist (x.units * d) n = Nat.dist (y.units * d) n :=
    Nat.le_antisymm (hx.nearest y hy.stored.isDouble) (hy.nearest x hx.stored.isDouble)
  have hxeven := hx.even y hy.stored.isDouble (Nat.ne_of_gt hlt) htie.symm
  have hyeven := hy.even x hx.stored.isDouble (Nat.ne_of_lt hlt) htie
  obtain ⟨z, hz, hnext⟩ := exists_next hx.stored.isDouble
  have hxz : x.units < z.units := by
    rw [hnext, units]
    exact (shiftLeft_lt_iff x.scale).2 (Nat.lt_succ_self _)
  have hzy : z.units ≤ y.units := hnext ▸ hx.stored.next_le hy.stored.isDouble hlt
  rcases Nat.lt_or_eq_of_le hzy with hbetween | heq
  · -- a double between the two is nearer than either
    have hnear := hx.nearest z hz
    have h1 := Nat.mul_lt_mul_of_pos_right hxz hd
    have h2 := Nat.mul_lt_mul_of_pos_right hbetween hd
    unfold Nat.dist at htie hnear
    omega
  · have := hx.stored.odd_of_next hy.stored (heq.symm.trans hnext) hxeven
    omega

/-- **A ratio has one rounding.** -/
theorem Rounds.unique (hx : x.Rounds n d) (hy : y.Rounds n d) (hd : 0 < d) : x = y :=
  hx.stored.eq_of_units_eq hy.stored (Nat.le_antisymm (hy.units_le hx hd) (hx.units_le hy hd))

/-- **Rounding keeps the order.** -/
theorem Rounds.mono {n' : Nat} (hx : x.Rounds n d) (hy : y.Rounds n' d) (hd : 0 < d)
    (h : n ≤ n') : x.units ≤ y.units := by
  refine Nat.le_of_not_lt fun hlt => ?_
  have hmul := Nat.mul_lt_mul_of_pos_right hlt hd
  have hxnear := hx.nearest y hy.stored.isDouble
  have hynear := hy.nearest x hx.stored.isDouble
  have heq : n = n' := by
    unfold Nat.dist at hxnear hynear
    omega
  rw [hx.unique (heq ▸ hy) hd] at hlt
  exact Nat.lt_irrefl _ hlt

/-- What is no larger than a finite double is finite. -/
theorem IsStored.isInfinite_eq_false (hx : x.IsStored) (hy : y.IsDouble)
    (hfinite : y.isInfinite = false) (h : x.units ≤ y.units) : x.isInfinite = false := by
  rw [isInfinite, decide_eq_false_iff_not] at hfinite ⊢
  intro hlarge
  have hlt := hx.units_lt_units hy (by omega)
  exact Nat.lt_irrefl _ (Nat.lt_of_lt_of_le hlt h)

/-! ## Whole numbers and quotients -/

/-- One, as a double. -/
def one : Binary64 := ⟨0x10_0000_0000_0000, 1022⟩

/-- One more than the largest 64-bit number, as a double. -/
def wordSize : Binary64 := ⟨0x10_0000_0000_0000, 1086⟩

/-- The least double that is not zero. -/
def least : Binary64 := ⟨1, 0⟩

theorem units_one : one.units = unitsPerOne := by
  decide +kernel

theorem units_wordSize : wordSize.units = 0x1_0000_0000_0000_0000 * unitsPerOne := by
  decide +kernel

theorem isDouble_least : least.IsDouble := by
  decide

theorem unitsPerOne_pos : 0 < unitsPerOne := shiftLeft_pos Nat.one_pos _

/-- **A whole number becomes the double nearest to it.** -/
theorem rounds_ofNat (n : Nat) : (ofNat n).Rounds (n * unitsPerOne) 1 :=
  rounds_ofUnits _ Nat.one_pos

/-- The least whole number that is no double lies halfway between two, and becomes the
even one. -/
example : ofNat 0x20_0000_0000_0001 = ofNat 0x20_0000_0000_0000 := by
  decide +kernel

/-- **Two doubles become the double nearest to their ratio.** -/
theorem rounds_div (x : Binary64) (hy : 0 < y.units) :
    (x.div y).Rounds (x.units * unitsPerOne) y.units :=
  rounds_ofUnits _ hy

@[simp] theorem units_ofNat_zero : (ofNat 0).units = 0 := by
  have h := (rounds_ofNat 0).le_of_le Nat.one_pos (y := ⟨0, 0⟩) (by decide) (by decide)
  exact Nat.le_zero.1 h

/-- A number from one on does not become less than one. -/
theorem unitsPerOne_le_ofNat (h : 0 < n) : unitsPerOne ≤ (ofNat n).units := by
  rw [← units_one]
  refine (rounds_ofNat n).ge_of_le Nat.one_pos (isDouble_full _) ?_
  rw [units_one, Nat.mul_one]
  exact Nat.le_mul_of_pos_left _ h

/-- A 64-bit number does not become more than the number of those there are. -/
theorem ofNat_le_wordSize (h : n < 0x1_0000_0000_0000_0000) :
    (ofNat n).units ≤ wordSize.units := by
  refine (rounds_ofNat n).le_of_le Nat.one_pos (isDouble_full _) ?_
  rw [units_wordSize, Nat.mul_one]
  exact Nat.mul_le_mul_right _ (Nat.le_of_lt h)

/-- Whole numbers keep their order as doubles. -/
theorem ofNat_le_ofNat {m : Nat} (h : m ≤ n) : (ofNat m).units ≤ (ofNat n).units :=
  (rounds_ofNat m).mono (rounds_ofNat n) Nat.one_pos (Nat.mul_le_mul_right _ h)

/-- **A part of a double is at most one of it.** -/
theorem div_le_one (hy : 0 < y.units) (h : x.units ≤ y.units) :
    (x.div y).units ≤ one.units := by
  refine (rounds_div x hy).le_of_le hy (isDouble_full _) ?_
  rw [units_one, Nat.mul_comm]
  exact Nat.mul_le_mul_left _ h

/-- **A part that comes to a unit is not nothing**: there is a double so small. -/
theorem div_pos (hy : 0 < y.units) (h : y.units ≤ x.units * unitsPerOne) :
    0 < (x.div y).units := by
  have hleast : least.units * y.units ≤ x.units * unitsPerOne := by
    rwa [show least.units = 1 from rfl, Nat.one_mul]
  exact (rounds_div x hy).ge_of_le hy isDouble_least hleast

/-- Nothing is no part of anything. -/
theorem div_eq_zero (hy : 0 < y.units) (h : x.units = 0) : (x.div y).units = 0 := by
  have hle := (rounds_div x hy).le_of_le hy (y := ⟨0, 0⟩) (by decide) (by simp [h])
  exact Nat.le_zero.1 hle

end Binary64

end Herald
